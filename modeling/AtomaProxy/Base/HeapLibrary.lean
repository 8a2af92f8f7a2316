/-
Binary heaps as their library documents them: popping gives a least element,
`retain` keeps what its closure asks for, and the order in which it visits the
elements is unspecified. A heap is whatever the library makes of it; how it is
laid out shows in the order of the visit alone.

The sorted queues of `PriorityQueue` are one such library.
-/
import AtomaProxy.Base.PriorityQueue

namespace Base

/-- A library of heaps, least element first. -/
structure HeapLibrary (α : Type) [LinearOrder α] where
  Heap : Type
  /-- the elements, in the order `retain` visits them -/
  visit : Heap → List α
  pop : Heap → Option (α × Heap)
  /-- what `retain` leaves of a heap where its closure keeps these -/
  retain : Heap → List α → Heap
  pop_none : ∀ {h}, pop h = .none → visit h = []
  pop_some : ∀ {h a rest}, pop h = .some (a, rest) → (visit h).Perm (a :: visit rest) ∧ ∀ b ∈ visit h, a ≤ b
  visit_retain : ∀ h kept, (visit (retain h kept)).Perm kept

/-- The queues that are sorted lists, visited in order. -/
def PriorityQueue.library (α : Type) [LinearOrder α] : HeapLibrary α where
  Heap := PriorityQueue α
  visit q := q.items
  pop := PriorityQueue.pop
  retain _ kept := ⟨kept.insertionSort (· ≤ ·), List.pairwise_insertionSort _ kept⟩
  pop_none := by
    rintro ⟨items, hsorted⟩ h
    cases items with
    | nil => rfl
    | cons a items => cases h
  pop_some := by
    rintro ⟨items, hsorted⟩ a rest h
    cases items with
    | nil => cases h
    | cons b items =>
      cases h
      refine ⟨.refl _, fun c hc => ?_⟩
      rcases List.mem_cons.1 hc with rfl | hc
      · exact le_rfl
      · exact List.rel_of_pairwise_cons hsorted hc
  visit_retain _ kept := List.perm_insertionSort _ kept

namespace HeapLibrary

variable {α : Type} [LinearOrder α] {lib : HeapLibrary α}

/-- What a loop popped, whether it went through, and the heap it left. -/
structure Popped (lib : HeapLibrary α) where
  popped : List α
  finished : Bool
  left : lib.Heap

variable (lib) in
/-- The loop that pops while the least element meets `p`, and does something with it first that may fail: whether the
`n`-th time it does not is what `accepts` says. The first number bounds the rounds. -/
def popLoop (p : α → Bool) (accepts : Nat → Bool) : Nat → Nat → lib.Heap → lib.Popped
  | 0, _, h => ⟨[], true, h⟩
  | rounds + 1, n, h =>
    match lib.pop h with
    | .none => ⟨[], true, h⟩
    | .some (a, rest) =>
      if p a then
        if accepts n then
          let r := popLoop p accepts rounds (n + 1) rest
          { r with popped := a :: r.popped }
        else ⟨[], false, h⟩
      else ⟨[], true, h⟩

variable (lib) in
/-- The loop, for as many rounds as it can have, after `n` times before it. -/
def popWhile (p : α → Bool) (accepts : Nat → Bool) (n : Nat) (h : lib.Heap) : lib.Popped :=
  lib.popLoop p accepts (lib.visit h).length n h

variable {p : α → Bool} {accepts : Nat → Bool}

/-- What a loop pops and what it leaves are what there was; it pops in order, and only what meets the test. -/
theorem popLoop_perm : ∀ {rounds n : Nat} {h : lib.Heap},
    (lib.visit h).Perm ((lib.popLoop p accepts rounds n h).popped ++
        lib.visit (lib.popLoop p accepts rounds n h).left) ∧
      (∀ a ∈ (lib.popLoop p accepts rounds n h).popped, p a = true) ∧
      (lib.popLoop p accepts rounds n h).popped.Pairwise (· ≤ ·)
  | 0, n, h => ⟨.refl _, fun _ ha => absurd ha List.not_mem_nil, .nil⟩
  | rounds + 1, n, h => by
    unfold popLoop
    cases hpop : lib.pop h with
    | none => exact ⟨.refl _, fun _ ha => absurd ha List.not_mem_nil, .nil⟩
    | some r =>
      obtain ⟨a, rest⟩ := r
      obtain ⟨hperm, hle⟩ := lib.pop_some hpop
      dsimp only
      split
      · next hp =>
        split
        · obtain ⟨hrest, hmeet, hsorted⟩ := @popLoop_perm rounds (n + 1) rest
          refine ⟨hperm.trans (hrest.cons a), fun b hb => ?_, List.pairwise_cons.2 ⟨fun b hb => ?_, hsorted⟩⟩
          · rcases List.mem_cons.1 hb with rfl | hb
            · exact hp
            · exact hmeet b hb
          · exact hle b (hperm.symm.subset (List.mem_cons_of_mem a (hrest.symm.subset (List.mem_append_left _ hb))))
        · exact ⟨.refl _, fun _ ha => absurd ha List.not_mem_nil, .nil⟩
      · exact ⟨.refl _, fun _ ha => absurd ha List.not_mem_nil, .nil⟩

/-- A loop that went through leaves nothing that meets the test, where lesser elements meet it too. -/
theorem popLoop_left (hp : ∀ {a b : α}, p b = true → a ≤ b → p a = true) : ∀ {rounds n : Nat} {h : lib.Heap},
    (lib.visit h).length ≤ rounds → (lib.popLoop p accepts rounds n h).finished = true →
      ∀ b ∈ lib.visit (lib.popLoop p accepts rounds n h).left, p b = false
  | 0, n, h, hrounds, _, b, hb => by
    rw [show lib.visit (lib.popLoop p accepts 0 n h).left = [] from List.length_eq_zero_iff.1 (Nat.le_zero.1 hrounds)] at hb
    exact absurd hb List.not_mem_nil
  | rounds + 1, n, h, hrounds, hfinished, b, hb => by
    unfold popLoop at hfinished hb
    cases hpop : lib.pop h with
    | none =>
      rw [hpop] at hb
      dsimp only at hb
      rw [lib.pop_none hpop] at hb
      exact absurd hb List.not_mem_nil
    | some r =>
      obtain ⟨a, rest⟩ := r
      obtain ⟨hperm, hle⟩ := lib.pop_some hpop
      rw [hpop] at hfinished hb
      dsimp only at hfinished hb
      split at hb
      · next hpa =>
        rw [if_pos hpa] at hfinished
        split at hb
        · next haccepts =>
          rw [if_pos haccepts] at hfinished
          have hlength : (lib.visit h).length = (lib.visit rest).length + 1 := hperm.length_eq
          exact popLoop_left hp (by omega) hfinished b hb
        · next haccepts =>
          rw [if_neg haccepts] at hfinished
          cases hfinished
      · next hpa =>
        -- the least element does not meet the test
        cases hpb : p b with
        | false => rfl
        | true => exact absurd (hp hpb (hle b hb)) hpa

/-- Where nothing fails the loop goes through. -/
theorem popLoop_finished (haccepts : ∀ n, accepts n = true) : ∀ {rounds n : Nat} {h : lib.Heap},
    (lib.popLoop p accepts rounds n h).finished = true
  | 0, n, h => rfl
  | rounds + 1, n, h => by
    unfold popLoop
    split
    · rfl
    · split
      · rw [if_pos (haccepts n)]
        exact popLoop_finished haccepts
      · rfl

/-- Where nothing fails it does not matter how many times there were before. -/
theorem popLoop_eq (haccepts : ∀ n, accepts n = true) (n' : Nat) : ∀ {rounds n : Nat} {h : lib.Heap},
    lib.popLoop p accepts rounds n h = lib.popLoop p accepts rounds n' h := by
  intro rounds
  induction rounds generalizing n' with
  | zero => exact rfl
  | succ rounds ih =>
    intro n h
    unfold popLoop
    rw [haccepts n, haccepts n']
    split
    · rfl
    · split
      · rw [if_pos rfl, if_pos rfl, ih (n' + 1)]
      · rfl

omit [LinearOrder α] in
/-- A list in two parts, of the elements that meet a test and of those that do not. -/
theorem perm_split {l popped left : List α} (hperm : l.Perm (popped ++ left)) (hmeet : ∀ a ∈ popped, p a = true)
    (hleft : ∀ a ∈ left, p a = false) : popped.Perm (l.filter p) ∧ (l.filter fun a => !p a).Perm left := by
  constructor
  · have hpopped := (hperm.filter p).symm
    rw [List.filter_append, List.filter_eq_self.2 hmeet, List.filter_eq_nil_iff.2 fun a ha => by simp [hleft a ha],
      List.append_nil] at hpopped
    exact hpopped
  · refine (hperm.filter _).trans ?_
    rw [List.filter_append, List.filter_eq_nil_iff.2 fun a ha => by simp [hmeet a ha],
      List.filter_eq_self.2 fun a ha => by simp [hleft a ha], List.nil_append]

/-- What a loop that went through popped, and what it left. -/
theorem popWhile_split (hp : ∀ {a b : α}, p b = true → a ≤ b → p a = true) {n : Nat} {h : lib.Heap}
    (hfinished : (lib.popWhile p accepts n h).finished = true) :
    (lib.popWhile p accepts n h).popped.Perm ((lib.visit h).filter p) ∧
      ((lib.visit h).filter fun a => !p a).Perm (lib.visit (lib.popWhile p accepts n h).left) :=
  have hpopped := @popLoop_perm _ _ lib p accepts (lib.visit h).length n h
  perm_split hpopped.1 hpopped.2.1 (popLoop_left hp (le_refl _) hfinished)

/-- Such a loop pops what a sorted queue of the same elements does, in the same order, and leaves what it leaves. -/
theorem popWhile_queue (hp : ∀ {a b : α}, p b = true → a ≤ b → p a = true) {n : Nat} {h : lib.Heap}
    {q : PriorityQueue α} (hq : (lib.visit h).Perm q.items)
    (hfinished : (lib.popWhile p accepts n h).finished = true) :
    (lib.popWhile p accepts n h).popped = (q.popWhile p).1 ∧
      (lib.visit (lib.popWhile p accepts n h).left).Perm (q.popWhile p).2.items := by
  obtain ⟨hpopped, hleft⟩ := @popWhile_split _ _ lib p accepts hp n h hfinished
  have hsplit := perm_split (.of_eq (@PriorityQueue.popWhile_append _ _ p q).symm)
    (fun a ha => (PriorityQueue.mem_of_mem_popped ha).2) (fun a ha => PriorityQueue.popWhile_left hp ha)
  constructor
  · have hsorted : (q.popWhile p).1.Pairwise (· ≤ ·) := q.sorted.sublist (List.takeWhile_sublist p)
    refine (hpopped.trans ((hq.filter p).trans hsplit.1.symm)).eq_of_pairwise ?_ popLoop_perm.2.2 hsorted
    exact fun a b _ _ => le_antisymm
  · exact hleft.symm.trans ((hq.filter _).trans hsplit.2)

/-- A heap without an element that meets the test is left as it is. -/
theorem popLoop_of_none {h : lib.Heap} (hnone : ∀ b ∈ lib.visit h, p b = false) : ∀ rounds n : Nat,
    lib.popLoop p accepts rounds n h = ⟨[], true, h⟩
  | 0, n => rfl
  | rounds + 1, n => by
    unfold popLoop
    cases hpop : lib.pop h with
    | none => rfl
    | some r =>
      have hfalse := hnone r.1 ((lib.pop_some hpop).1.symm.subset List.mem_cons_self)
      dsimp only
      rw [if_neg (hfalse ▸ Bool.false_ne_true)]

end HeapLibrary

end Base
