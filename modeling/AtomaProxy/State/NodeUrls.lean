/-
When the URL registrations of a node are a register whose last writer wins.

A registration arrives by `register_node_public_url` or as a p2p event. The
first writes only what is newer and differs; where the URL and the country do
not differ it leaves the row's timestamp too, and the row is then older than
the registration it stands for. The second writes whatever differs, and no
timestamp. So the last writer wins, in every order, exactly if all of them
come the first way and no URL and country come back.

A registration may be tried more than once, and so an order is any list of
the registrations.
-/
import AtomaProxy.Base.LastWriter
import AtomaProxy.State.Nodes

namespace AtomaProxy

open Base

/-- How a registration arrives. -/
inductive RegistrationPath where
  | register
  | p2p
  deriving DecidableEq, Repr

/-- A URL registration of a node, and the time of the call. -/
structure UrlRegistration where
  path : RegistrationPath
  publicUrl : String
  country : String
  timestamp : Int64
  nowMillis : Int
  deriving DecidableEq, Repr

namespace UrlRegistration

def stamp (r : UrlRegistration) : Int := r.timestamp.toInt

/-- What is registered. -/
def content (r : UrlRegistration) : String × String := (r.publicUrl, r.country)

def Valid (v : UrlValidation) (r : UrlRegistration) : Prop :=
  validateTimestamp r.nowMillis r.timestamp = .ok () ∧ validateCountry v r.country = .ok () ∧
    validateUrl v r.publicUrl = .ok ()

/-- The table after the registration. The metrics collector receives and the statement does not fail. -/
def apply (v : UrlValidation) (nodeSmallId : UInt64) (t : Nodes) (r : UrlRegistration) : Nodes :=
  match r.path with
  | .register => (t.registerNodePublicUrl v r.nowMillis (fun _ t => t) nodeSmallId.toInt64 r.publicUrl r.timestamp
      r.country).1
  | .p2p => (handleP2pEvent t ⟨true, false⟩ (.nodeMetricsRegistrationEvent r.publicUrl nodeSmallId
      r.timestamp.toUInt64 r.country) .none).nodes

def applyAll (v : UrlValidation) (nodeSmallId : UInt64) (t : Nodes) (rs : List UrlRegistration) : Nodes :=
  rs.foldl (apply v nodeSmallId) t

/-- It is of the greatest timestamp. -/
def Latest (rs : List UrlRegistration) (r : UrlRegistration) : Prop :=
  r ∈ rs ∧ ∀ r' ∈ rs, r'.stamp ≤ r.stamp

end UrlRegistration

/-- The URL, the country and the timestamp are the registration's. -/
def Node.Holds (node : Node) (r : UrlRegistration) : Prop :=
  node.publicAddress = .some r.publicUrl ∧ node.country = .some r.country ∧ node.timestamp = .some r.timestamp

/-- The last writer of `order` wins: the registration of the greatest timestamp is left, and one that comes after a
newer one changes nothing. -/
structure LastWriterWins (v : UrlValidation) (nodeSmallId : UInt64) (t : Nodes) (order : List UrlRegistration) :
    Prop where
  latest : ∀ r, UrlRegistration.Latest order r → ∃ node,
    UrlRegistration.applyAll v nodeSmallId t order nodeSmallId.toInt64 = .some node ∧ node.Holds r
  older : ∀ before r after, order = before ++ r :: after →
    (∃ newer ∈ before, r.stamp < newer.stamp) →
      UrlRegistration.applyAll v nodeSmallId t (before ++ [r]) nodeSmallId.toInt64 =
        UrlRegistration.applyAll v nodeSmallId t before nodeSmallId.toInt64

/-- The condition: no registration arrives as a p2p event; none but itself has the URL and the country of the
latest; and between two that have them in common, by timestamp, there is none that does not. -/
structure ComesOnce (rs : List UrlRegistration) : Prop where
  register : ∀ r ∈ rs, r.path = .register
  latest : ∀ r, UrlRegistration.Latest rs r → ∀ r' ∈ rs, r'.content = r.content → r' = r
  between : ∀ r₀ ∈ rs, ∀ r ∈ rs, ∀ r₁ ∈ rs, r₀.stamp < r.stamp →
    r.stamp < r₁.stamp → r₀.content = r₁.content → r.content = r₁.content

/-! ## What a registration does to the row -/

/-- The statement that the registration comes to. -/
def UrlRegistration.statement (r : UrlRegistration) : Node → Option Node :=
  match r.path with
  | .register => Node.registerPublicUrl r.publicUrl r.timestamp r.country
  | .p2p => Node.updatePublicAddress r.publicUrl r.country

def UrlRegistration.onRow (r : UrlRegistration) (node : Node) : Node := (r.statement node).getD node

def UrlRegistration.onRowAll (rs : List UrlRegistration) (node : Node) : Node :=
  rs.foldl (fun node r => r.onRow node) node

/-- Further attempts on the same table find what the first one found. -/
theorem Nodes.registerAttempts_fst (id : Int64) (f : Node → Option Node) : ∀ left retry (t : Nodes),
    (registerAttempts id f (fun _ t => t) (left + 1) retry t).1 = t.after id fun node => .ok (f node)
  | left, retry, t => by
    rw [registerAttempts, updateRow_total, query_ok]
    cases haffected : ((t id).bind f).isSome with
    | true => rfl
    | false =>
      have hsame : (t.after id fun node => .ok (f node)) = t := by
        funext id'
        rw [after_row]
        split
        · next hid =>
          subst hid
          cases hnode : t id' with
          | none => rfl
          | some node =>
            rw [hnode, Option.bind_some, Option.isSome_eq_false_iff, Option.isNone_iff_eq_none] at haffected
            rw [Option.map_some, haffected, Option.getD_none]
        · rfl
      dsimp only
      rw [hsame, ite_self]
      cases left with
      | zero => rfl
      | succ left => rw [Nodes.registerAttempts_fst id f left (retry + 1) t, hsame]

namespace UrlRegistration

variable {v : UrlValidation} {nodeSmallId : UInt64} {t : Nodes} {r : UrlRegistration}

theorem apply_eq (h : r.Valid v) : apply v nodeSmallId t r =
    t.after nodeSmallId.toInt64 fun node => .ok (r.statement node) := by
  unfold apply statement
  cases r.path with
  | register =>
    obtain ⟨htimestamp, hcountry, hurl⟩ := h
    dsimp only
    rw [Nodes.registerNodePublicUrl, htimestamp, hcountry, hurl]
    exact Nodes.registerAttempts_fst _ _ 2 0 t
  | p2p =>
    dsimp only
    rw [(handleP2pEvent_registration t _ _ nodeSmallId _ _ _).2.2, if_pos ⟨rfl, rfl⟩]

theorem applyAll_row {rs : List UrlRegistration} (h : ∀ r ∈ rs, r.Valid v) : ∀ {t : Nodes} {node : Node},
    t nodeSmallId.toInt64 = .some node →
      applyAll v nodeSmallId t rs nodeSmallId.toInt64 = .some (onRowAll rs node) := by
  induction rs with
  | nil => exact id
  | cons r rs ih =>
    intro t node hnode
    refine ih (fun r hr => h r (List.mem_cons_of_mem _ hr)) ?_
    rw [apply_eq (h r List.mem_cons_self), Nodes.after_row, if_pos rfl, hnode]
    rfl

end UrlRegistration

/-- The row's URL and country are those of the content. -/
def Node.Shows (node : Node) (content : String × String) : Prop :=
  node.publicAddress = .some content.1 ∧ node.country = .some content.2

section Row

variable {node : Node} {r r' : UrlRegistration}

theorem Node.distinct_iff : node.Distinct r.publicUrl r.country ↔ ¬ node.Shows r.content := by
  unfold Distinct Shows UrlRegistration.content
  rw [not_and_or]

theorem Node.Holds.shows (h : node.Holds r) : node.Shows r.content := ⟨h.1, h.2.1⟩

theorem Node.Shows.content_eq {c c' : String × String} (h : node.Shows c) (h' : node.Shows c') : c = c' :=
  Prod.ext (Option.some.inj (h.1.symm.trans h'.1)) (Option.some.inj (h.2.symm.trans h'.2))

namespace UrlRegistration

/-- What a row shows is not written again. -/
theorem onRow_of_shows (h : node.Shows r.content) : r.onRow node = node := by
  have hnot : ¬ node.Distinct r.publicUrl r.country := fun hd => Node.distinct_iff.1 hd h
  unfold onRow statement
  cases r.path with
  | register =>
    dsimp only
    rw [Node.registerPublicUrl, if_neg fun hboth => hnot hboth.2]
    rfl
  | p2p =>
    dsimp only
    rw [Node.updatePublicAddress, if_neg hnot]
    rfl

/-- The first path refuses what is not newer. -/
theorem onRow_of_le (hpath : r.path = .register) {t : Int64} (ht : node.timestamp = .some t)
    (hle : r.stamp ≤ t.toInt) : r.onRow node = node := by
  have hnot : ¬ node.isOlder r.timestamp = true := by
    unfold Node.isOlder
    rw [ht, decide_eq_true_iff, Int64.lt_iff_toInt_lt]
    exact not_lt_of_ge hle
  unfold onRow statement
  rw [hpath]
  dsimp only
  rw [Node.registerPublicUrl, if_neg fun hboth => hnot hboth.1]
  rfl

/-- It writes what is newer and differs. -/
theorem onRow_holds (hpath : r.path = .register) (ht : ∀ t, node.timestamp = .some t → t.toInt < r.stamp)
    (hnot : ¬ node.Shows r.content) : (r.onRow node).Holds r := by
  have holder : node.isOlder r.timestamp = true := by
    unfold Node.isOlder
    cases htime : node.timestamp with
    | none => rfl
    | some t => exact decide_eq_true (Int64.lt_iff_toInt_lt.2 (ht t htime))
  unfold onRow statement
  rw [hpath]
  dsimp only
  rw [Node.registerPublicUrl, if_pos ⟨holder, Node.distinct_iff.2 hnot⟩]
  exact ⟨rfl, rfl, rfl⟩

/-- It writes on a row that shows nothing. -/
theorem onRow_holds_empty (hpath : r.path = .register) (haddress : node.publicAddress = .none)
    (htimestamp : node.timestamp = .none) : (r.onRow node).Holds r := by
  refine onRow_holds hpath (fun t ht => ?_) (fun hshows => ?_)
  · rw [htimestamp] at ht
    cases ht
  · have hsome := hshows.1
    rw [haddress] at hsome
    cases hsome

/-- It writes over an older registration of another content. -/
theorem onRow_holds_newer {r₀ : UrlRegistration} (hpath : r.path = .register) (hholds : node.Holds r₀)
    (hlt : r₀.stamp < r.stamp) (hnot : ¬ node.Shows r.content) : (r.onRow node).Holds r := by
  refine onRow_holds hpath (fun t ht => ?_) hnot
  rw [hholds.2.2] at ht
  cases ht
  exact hlt

/-- The second path writes whatever differs. -/
theorem onRow_p2p (hpath : r.path = .p2p) : (r.onRow node).Shows r.content := by
  by_cases h : node.Shows r.content
  · rw [onRow_of_shows h]
    exact h
  · unfold onRow statement
    rw [hpath]
    dsimp only
    rw [Node.updatePublicAddress, if_pos (Node.distinct_iff.2 h)]
    exact ⟨rfl, rfl⟩

/-- A row's timestamp is the one it had, or that of a registration by the first path. -/
theorem onRow_timestamp (r : UrlRegistration) (node : Node) : (r.onRow node).timestamp = node.timestamp ∨
    r.path = .register ∧ (r.onRow node).timestamp = .some r.timestamp := by
  unfold onRow statement
  cases r.path with
  | register =>
    dsimp only
    unfold Node.registerPublicUrl
    split
    · exact .inr ⟨rfl, rfl⟩
    · exact .inl rfl
  | p2p =>
    dsimp only
    unfold Node.updatePublicAddress
    split <;> exact .inl rfl

/-- A row comes to show what is registered on it, unless it is newer. -/
theorem onRow_shows_fresh (h : node.timestamp = .none) : (r.onRow node).Shows r.content := by
  cases hpath : r.path with
  | p2p => exact onRow_p2p hpath
  | register =>
    by_cases hshows : node.Shows r.content
    · rw [onRow_of_shows hshows]
      exact hshows
    · refine (onRow_holds hpath (fun t ht => ?_) hshows).shows
      rw [h] at ht
      cases ht

theorem onRowAll_append (rs rs' : List UrlRegistration) (node : Node) :
    onRowAll (rs ++ rs') node = onRowAll rs' (onRowAll rs node) := List.foldl_append

theorem onRowAll_timestamp {rs : List UrlRegistration} {node : Node} {t : Int64}
    (h : (onRowAll rs node).timestamp = .some t) : node.timestamp = .some t ∨
      ∃ r ∈ rs, r.path = .register ∧ r.timestamp = t := by
  induction rs generalizing node with
  | nil => exact .inl h
  | cons r rs ih =>
    rcases ih h with h | ⟨r', hmem, hr'⟩
    · rcases onRow_timestamp r node with hsame | ⟨hpath, hr⟩
      · exact .inl (hsame ▸ h)
      · exact .inr ⟨r, List.mem_cons_self, hpath, Option.some.inj (hr.symm.trans h)⟩
    · exact .inr ⟨r', List.mem_cons_of_mem r hmem, hr'⟩

end UrlRegistration

end Row

/-! ## Where the condition is met -/

/-- The register, whose last writer wins. -/
def urlRegister (order : List UrlRegistration) : Option UrlRegistration :=
  lastWriter UrlRegistration.stamp order

/-- The row shows what the register holds; it may be of an older registration of the same. -/
def Node.Tracks (rs : List UrlRegistration) (node : Node) : Option UrlRegistration → Prop
  | .none => node.publicAddress = .none ∧ node.timestamp = .none
  | .some m => m ∈ rs ∧ ∃ r₀ ∈ rs, node.Holds r₀ ∧ r₀.stamp ≤ m.stamp ∧ r₀.content = m.content

section Tracks

variable {rs : List UrlRegistration} {node : Node} {r m : UrlRegistration}
  (hdistinct : ∀ r ∈ rs, ∀ r' ∈ rs, r.timestamp = r'.timestamp → r = r') (honce : ComesOnce rs)

include hdistinct honce

/-- One that is not newer changes nothing. -/
theorem Node.Tracks.unchanged (h : node.Tracks rs (.some m)) (hr : r ∈ rs)
    (hle : r.stamp ≤ m.stamp) : r.onRow node = node := by
  obtain ⟨hm, r₀, hr₀, hholds, hle₀, hcontent⟩ := h
  by_cases hold : r.stamp ≤ r₀.stamp
  · exact UrlRegistration.onRow_of_le (honce.register r hr) hholds.2.2 hold
  · -- it is between the row's and the register's, which have their content in common
    have hsame : r.content = m.content := by
      rcases lt_or_eq_of_le hle with hlt | heq
      · exact honce.between r₀ hr₀ r hr m hm (not_le.1 hold) hlt hcontent
      · rw [hdistinct r hr m hm (Int64.toInt_inj.1 heq)]
    refine UrlRegistration.onRow_of_shows ?_
    rw [hsame, ← hcontent]
    exact hholds.shows

theorem Node.Tracks.onRow {current : Option UrlRegistration} (h : node.Tracks rs current) (hr : r ∈ rs) :
    (r.onRow node).Tracks rs (lastWrite UrlRegistration.stamp current r) := by
  cases current with
  | none =>
    obtain ⟨haddress, htimestamp⟩ := h
    have hwritten := UrlRegistration.onRow_holds_empty (honce.register r hr) haddress htimestamp
    exact ⟨hr, r, hr, hwritten, le_rfl, rfl⟩
  | some m =>
    rcases lt_or_ge m.stamp r.stamp with hlt | hge
    · rw [lastWrite_of_lt hlt]
      obtain ⟨hm, r₀, hr₀, hholds, hle₀, hcontent⟩ := h
      by_cases hshows : node.Shows r.content
      · rw [UrlRegistration.onRow_of_shows hshows]
        exact ⟨hr, r₀, hr₀, hholds, (hle₀.trans_lt hlt).le, hholds.shows.content_eq hshows⟩
      · have hwritten :=
          UrlRegistration.onRow_holds_newer (honce.register r hr) hholds (hle₀.trans_lt hlt) hshows
        exact ⟨hr, r, hr, hwritten, le_rfl, rfl⟩
    · rw [lastWrite_of_le hge, h.unchanged hdistinct honce hr hge]
      exact h

theorem Node.Tracks.onRowAll {order : List UrlRegistration} (hmem : ∀ r ∈ order, r ∈ rs) :
    ∀ {node : Node} {current : Option UrlRegistration}, node.Tracks rs current →
      (UrlRegistration.onRowAll order node).Tracks rs (order.foldl (lastWrite UrlRegistration.stamp) current) := by
  induction order with
  | nil => exact id
  | cons r order ih =>
    intro node current h
    show (UrlRegistration.onRowAll order (r.onRow node)).Tracks rs (order.foldl _ (lastWrite _ current r))
    exact ih (fun r' hr' => hmem r' (List.mem_cons_of_mem r hr')) (h.onRow hdistinct honce (hmem r List.mem_cons_self))

end Tracks

/-- A row as its registration on chain leaves it. -/
structure Node.Fresh (node : Node) : Prop where
  publicAddress : node.publicAddress = .none
  country : node.country = .none
  timestamp : node.timestamp = .none

section Orders

variable {v : UrlValidation} {nodeSmallId : UInt64} {t : Nodes} {node : Node} {rs order : List UrlRegistration}
  (hnode : t nodeSmallId.toInt64 = .some node) (hfresh : node.Fresh) (hvalid : ∀ r ∈ rs, r.Valid v)
  (hdistinct : ∀ r ∈ rs, ∀ r' ∈ rs, r.timestamp = r'.timestamp → r = r')

include hnode hfresh hvalid hdistinct

/-- **Where the condition is met, the last writer wins in every order.** -/
theorem ComesOnce.lastWriterWins (honce : ComesOnce rs) (hmem : ∀ r, r ∈ order ↔ r ∈ rs) :
    LastWriterWins v nodeSmallId t order := by
  have hrow : ∀ {rs' : List UrlRegistration}, (∀ r ∈ rs', r ∈ rs) →
      UrlRegistration.applyAll v nodeSmallId t rs' nodeSmallId.toInt64 =
        .some (UrlRegistration.onRowAll rs' node) := fun hsub =>
    UrlRegistration.applyAll_row (fun r hr => hvalid r (hsub r hr)) hnode
  have htracks : ∀ {rs' : List UrlRegistration} {m}, (∀ r ∈ rs', r ∈ rs) → urlRegister rs' = .some m →
      (UrlRegistration.onRowAll rs' node).Tracks rs (.some m) := by
    intro rs' m hsub hm
    have hstart : node.Tracks rs .none := ⟨hfresh.publicAddress, hfresh.timestamp⟩
    rw [← hm]
    exact Node.Tracks.onRowAll hdistinct honce hsub hstart
  constructor
  case latest =>
    intro r hlatest
    obtain ⟨m, hm⟩ := lastWriter_of_mem UrlRegistration.stamp hlatest.1
    obtain ⟨hmorder, hgreatest⟩ := lastWriter_greatest hm
    have hmr : m = r := hdistinct m ((hmem m).1 hmorder) r ((hmem r).1 hlatest.1)
      (Int64.toInt_inj.1 (le_antisymm (hlatest.2 m hmorder) (hgreatest r hlatest.1)))
    subst hmr
    obtain ⟨hm', r₀, hr₀, hholds, _, hcontent⟩ := htracks (fun r => (hmem r).1) hm
    have hr₀m := honce.latest m ⟨hm', fun r' hr' => hgreatest r' ((hmem r').2 hr')⟩ r₀ hr₀ hcontent
    exact ⟨_, hrow fun r => (hmem r).1, hr₀m ▸ hholds⟩
  case older =>
    rintro before r after rfl ⟨newer, hnewer, hlt⟩
    have hr : r ∈ rs := (hmem r).1 (List.mem_append_right before List.mem_cons_self)
    have hsub : ∀ r ∈ before, r ∈ rs := fun r hr => (hmem r).1 (List.mem_append_left _ hr)
    obtain ⟨m, hm⟩ := lastWriter_of_mem UrlRegistration.stamp hnewer
    have hle := hlt.le.trans ((lastWriter_greatest hm).2 newer hnewer)
    rw [hrow hsub, hrow, UrlRegistration.onRowAll_append]
    · exact congrArg _ ((htracks hsub hm).unchanged hdistinct honce hr hle)
    · intro r' hr'
      rcases List.mem_append.1 hr' with hr' | hr'
      · exact hsub r' hr'
      · exact List.mem_singleton.1 hr' ▸ hr

/-! ## And only there -/

section Needs

variable (h : ∀ order, (∀ r, r ∈ order ↔ r ∈ rs) → LastWriterWins v nodeSmallId t order)

include h

omit hfresh hdistinct in
/-- Whatever the order, the latest is what the row holds. -/
theorem holds_latest {latest : UrlRegistration} (hlatest : UrlRegistration.Latest rs latest)
    (hmem : ∀ r, r ∈ order ↔ r ∈ rs) : (UrlRegistration.onRowAll order node).Holds latest := by
  obtain ⟨node', hrow, hholds⟩ := (h order hmem).latest latest
    ⟨(hmem latest).2 hlatest.1, fun r hr => hlatest.2 r ((hmem r).1 hr)⟩
  rw [UrlRegistration.applyAll_row (fun r hr => hvalid r ((hmem r).1 hr)) hnode] at hrow
  cases hrow
  exact hholds

omit hfresh hdistinct in
/-- After one that is newer, a registration changes nothing. -/
theorem unchanged_after {before : List UrlRegistration} {r newer : UrlRegistration} (hsub : ∀ r ∈ before, r ∈ rs)
    (hr : r ∈ rs) (hnewer : newer ∈ before) (hlt : r.stamp < newer.stamp) :
    r.onRow (UrlRegistration.onRowAll before node) = UrlRegistration.onRowAll before node := by
  have hmem : ∀ r', r' ∈ before ++ r :: rs ↔ r' ∈ rs := by
    intro r'
    rw [List.mem_append, List.mem_cons]
    constructor
    · rintro (hr' | rfl | hr')
      · exact hsub r' hr'
      · exact hr
      · exact hr'
    · exact fun hr' => .inr (.inr hr')
  have hvalid' : ∀ r' ∈ before ++ [r], r'.Valid v := by
    intro r' hr'
    rcases List.mem_append.1 hr' with hr' | hr'
    · exact hvalid r' (hsub r' hr')
    · exact hvalid r' (List.mem_singleton.1 hr' ▸ hr)
  have holder := (h _ hmem).older before r rs rfl ⟨newer, hnewer, hlt⟩
  rw [UrlRegistration.applyAll_row hvalid' hnode,
    UrlRegistration.applyAll_row (fun r' hr' => hvalid r' (hsub r' hr')) hnode,
    UrlRegistration.onRowAll_append] at holder
  exact Option.some.inj holder

/-- The latest, tried right after another of its URL and country, is not written. -/
theorem latest_comesOnce {latest r : UrlRegistration} (hlatest : UrlRegistration.Latest rs latest) (hr : r ∈ rs)
    (hcontent : r.content = latest.content) : r = latest := by
  by_contra hne
  have hmem : ∀ r', r' ∈ r :: latest :: rs.filter (· ≠ latest) ↔ r' ∈ rs := by
    intro r'
    simp only [List.mem_cons, List.mem_filter, decide_eq_true_iff]
    constructor
    · rintro (rfl | rfl | hr')
      · exact hr
      · exact hlatest.1
      · exact hr'.1
    · intro hr'
      by_cases heq : r' = latest
      · exact .inr (.inl heq)
      · exact .inr (.inr ⟨hr', heq⟩)
  have hshows : (r.onRow node).Shows latest.content := hcontent ▸ UrlRegistration.onRow_shows_fresh hfresh.timestamp
  have hholds := (holds_latest hnode hvalid h hlatest hmem).2.2
  rw [UrlRegistration.onRowAll, List.foldl_cons, List.foldl_cons, UrlRegistration.onRow_of_shows hshows] at hholds
  rcases UrlRegistration.onRowAll_timestamp hholds with htime | ⟨r', hr', _, htime⟩
  · rcases UrlRegistration.onRow_timestamp r node with hsame | ⟨_, hwritten⟩
    · rw [hsame, hfresh.timestamp] at htime
      cases htime
    · exact hne (hdistinct r hr latest hlatest.1 (Option.some.inj (hwritten.symm.trans htime)))
  · obtain ⟨hr', hnot⟩ := List.mem_filter.1 hr'
    exact of_decide_eq_true hnot (hdistinct r' hr' latest hlatest.1 htime)

theorem latest_register {latest : UrlRegistration} (hlatest : UrlRegistration.Latest rs latest) :
    latest.path = .register := by
  have hholds := (holds_latest hnode hvalid h hlatest fun _ => Iff.rfl).2.2
  rcases UrlRegistration.onRowAll_timestamp hholds with htime | ⟨r', hr', hpath, htime⟩
  · rw [hfresh.timestamp] at htime
    cases htime
  · rw [← hdistinct r' hr' latest hlatest.1 htime]
    exact hpath

theorem all_register {r : UrlRegistration} (hr : r ∈ rs) : r.path = .register := by
  obtain ⟨latest, hlast⟩ := lastWriter_of_mem UrlRegistration.stamp hr
  have hlatest : UrlRegistration.Latest rs latest := lastWriter_greatest hlast
  cases hpath : r.path with
  | register => rfl
  | p2p =>
    have hne : r ≠ latest := by
      rintro rfl
      rw [latest_register hnode hfresh hvalid hdistinct h hlatest] at hpath
      cases hpath
    have hlt : r.stamp < latest.stamp :=
      lt_of_le_of_ne (hlatest.2 r hr) fun heq => hne (hdistinct r hr latest hlatest.1 (Int64.toInt_inj.1 heq))
    -- applied last, it is what the row shows, and the latest is too
    have hshows : (r.onRow (UrlRegistration.onRowAll rs node)).Shows r.content := UrlRegistration.onRow_p2p hpath
    rw [unchanged_after hnode hvalid h (fun _ => id) hr hlatest.1 hlt] at hshows
    have hholds := holds_latest hnode hvalid h hlatest fun _ => Iff.rfl
    have hcontent := hshows.content_eq hholds.shows
    exact absurd (latest_comesOnce hnode hfresh hvalid hdistinct h hlatest hr hcontent) hne

/-- A registration between two of one URL and country is written over the first, where the second was tried. -/
theorem between_content {r₀ r r₁ : UrlRegistration} (hr₀ : r₀ ∈ rs) (hr : r ∈ rs) (hr₁ : r₁ ∈ rs)
    (hlt₀ : r₀.stamp < r.stamp) (hlt₁ : r.stamp < r₁.stamp) (hcontent : r₀.content = r₁.content) :
    r.content = r₁.content := by
  have hholds : (r₀.onRow node).Holds r₀ := UrlRegistration.onRow_holds_empty
    (all_register hnode hfresh hvalid hdistinct h hr₀) hfresh.publicAddress hfresh.timestamp
  have hskipped : UrlRegistration.onRowAll [r₀, r₁] node = r₀.onRow node :=
    UrlRegistration.onRow_of_shows (hcontent ▸ hholds.shows)
  have hsub : ∀ r' ∈ [r₀, r₁], r' ∈ rs := by
    intro r' hr'
    rcases List.mem_pair.1 hr' with rfl | rfl
    · exact hr₀
    · exact hr₁
  have hunchanged := unchanged_after hnode hvalid h hsub hr (List.mem_cons_of_mem _ List.mem_cons_self) hlt₁
  rw [hskipped] at hunchanged
  rw [← hcontent]
  by_contra hne
  have hwritten : (r.onRow (r₀.onRow node)).Holds r := UrlRegistration.onRow_holds_newer
    (all_register hnode hfresh hvalid hdistinct h hr) hholds hlt₀ fun hshows => hne (hshows.content_eq hholds.shows)
  rw [hunchanged] at hwritten
  exact hne (hwritten.shows.content_eq hholds.shows)

/-- **And only where the condition is met.** -/
theorem comesOnce_of_lastWriterWins : ComesOnce rs where
  register _ := all_register hnode hfresh hvalid hdistinct h
  latest _ hlatest _ := latest_comesOnce hnode hfresh hvalid hdistinct h hlatest
  between _ hr₀ _ hr _ hr₁ := between_content hnode hfresh hvalid hdistinct h hr₀ hr hr₁

end Needs

end Orders

/-- **Main result.** Of valid registrations of a node, with timestamps of their own, the last writer wins in every
order they are applied in exactly if they all come by `register_node_public_url` and no URL and country come back. -/
theorem last_writer_wins_iff {v : UrlValidation} {nodeSmallId : UInt64} {t : Nodes} {node : Node}
    {rs : List UrlRegistration} (hnode : t nodeSmallId.toInt64 = .some node) (hfresh : node.Fresh)
    (hvalid : ∀ r ∈ rs, r.Valid v) (hdistinct : ∀ r ∈ rs, ∀ r' ∈ rs, r.timestamp = r'.timestamp → r = r') :
    (∀ order, (∀ r, r ∈ order ↔ r ∈ rs) → LastWriterWins v nodeSmallId t order) ↔ ComesOnce rs :=
  ⟨comesOnce_of_lastWriterWins hnode hfresh hvalid hdistinct,
    fun honce _ hmem => honce.lastWriterWins hnode hfresh hvalid hdistinct hmem⟩

/-- Every country and URL is accepted. -/
def anyUrl : UrlValidation := ⟨fun _ => true, fun _ => true⟩

def urlNodes : Nodes := Function.update (fun _ => .none) 1 (.some ⟨"badge", "0xa", .none, .none, .none⟩)

theorem urlNodes_fresh : ∃ node, urlNodes (1 : UInt64).toInt64 = .some node ∧ node.Fresh :=
  ⟨_, rfl, rfl, rfl, rfl⟩

/-- A registration by the first path, within the first ten seconds. -/
def urlRegistration (publicUrl : String) (timestamp : Int64) : UrlRegistration :=
  ⟨.register, publicUrl, "US", timestamp, 10000⟩

theorem urlRegistration_valid {publicUrl : String} {timestamp : Int64} (h : timestamp.toInt ≤ 10) :
    (urlRegistration publicUrl timestamp).Valid anyUrl := by
  refine ⟨if_neg ?_, rfl, rfl⟩
  show ¬ timestamp.toInt > (10000 + 250 : Int).tdiv 1000
  exact not_lt_of_ge h

/-- Two URLs that come once each. -/
theorem last_writer_wins_iff_example :
    ComesOnce [urlRegistration "https://a" 1, urlRegistration "https://b" 2] ∧
      ∀ order, (∀ r, r ∈ order ↔ r ∈ [urlRegistration "https://a" 1, urlRegistration "https://b" 2]) →
        LastWriterWins anyUrl 1 urlNodes order := by
  have hcontent : ∀ r ∈ [urlRegistration "https://a" 1, urlRegistration "https://b" 2],
      ∀ r' ∈ [urlRegistration "https://a" 1, urlRegistration "https://b" 2], r'.content = r.content → r' = r := by
    decide
  have honce : ComesOnce [urlRegistration "https://a" 1, urlRegistration "https://b" 2] :=
    ⟨by decide, fun r hr => hcontent r hr.1, by decide⟩
  obtain ⟨node, hnode, hfresh⟩ := urlNodes_fresh
  refine ⟨honce, (last_writer_wins_iff hnode hfresh ?_ (by decide)).2 honce⟩
  intro r hr
  rcases List.mem_pair.1 hr with rfl | rfl
  · exact urlRegistration_valid (by decide)
  · exact urlRegistration_valid (by decide)

/-- The URL "https://a" registered twice, and "https://b" in between: it comes last, and stays. -/
theorem last_writer_wins_fails : ¬ ∀ (v : UrlValidation) (nodeSmallId : UInt64) (t : Nodes) (node : Node)
    (rs : List UrlRegistration), t nodeSmallId.toInt64 = .some node → node.Fresh → (∀ r ∈ rs, r.Valid v) →
    (∀ r ∈ rs, ∀ r' ∈ rs, r.timestamp = r'.timestamp → r = r') → LastWriterWins v nodeSmallId t rs := by
  intro h
  obtain ⟨node, hnode, hfresh⟩ := urlNodes_fresh
  have hvalid : ∀ r ∈ [urlRegistration "https://a" 1, urlRegistration "https://a" 3, urlRegistration "https://b" 2],
      r.Valid anyUrl := by
    intro r hr
    simp only [List.mem_cons, List.not_mem_nil, or_false] at hr
    rcases hr with rfl | rfl | rfl
    · exact urlRegistration_valid (by decide)
    · exact urlRegistration_valid (by decide)
    · exact urlRegistration_valid (by decide)
  obtain ⟨node', hrow, hholds⟩ := (h anyUrl 1 urlNodes node _ hnode hfresh hvalid (by decide)).latest
    (urlRegistration "https://a" 3) ⟨List.mem_cons_of_mem _ List.mem_cons_self, by decide⟩
  rw [UrlRegistration.applyAll_row hvalid hnode] at hrow
  cases hrow
  cases hnode
  exact absurd hholds.1 (by decide)

end AtomaProxy
