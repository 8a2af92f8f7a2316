/-
The strings and the numbers of a compact JSON text: what is escaped, and that
what is printed can be read back whatever follows it. A string ends at the
first quote that is not escaped and a number at the first character that is no
digit, so that two texts which agree had the same parts.
-/
import AtomaProxy.Base.Bytes

namespace Base

namespace JsonText

def quote : Char := '\x22'
def backslash : Char := '\x5c'

/-- The characters with an escape of two characters, and the second of them. -/
def shortEscapes : List (Char × Char) :=
  [(quote, quote), (backslash, backslash), ('\x08', 'b'), ('\x0c', 'f'), ('\n', 'n'), ('\r', 'r'), ('\t', 't')]

/-- A character inside a string. -/
def escapeChar (c : Char) : List Char :=
  match shortEscapes.lookup c with
  | .some e => [backslash, e]
  | .none =>
    if c.toNat < 32 then [backslash, 'u', '0', '0', hexDigit (c.toNat / 16), hexDigit (c.toNat % 16)]
    else [c]

/-- What stands between a string's quotes. -/
def escape (s : List Char) : List Char := s.flatMap escapeChar

def hexValue (h : Char) : Nat := if h.toNat < 58 then h.toNat - 48 else h.toNat - 87

def unescape (e : Char) : Option Char := (shortEscapes.find? fun p => p.2 = e).map Prod.fst

/-- The character a string's text starts with, and the text after it; nothing at its end. -/
def readChar : List Char → Option (Char × List Char)
  | [] => .none
  | c :: rest =>
    if c = quote then .none
    else if c ≠ backslash then .some (c, rest)
    else
      match rest with
      | 'u' :: _ :: _ :: h :: l :: rest => .some (Char.ofNat (16 * hexValue h + hexValue l), rest)
      | e :: rest => (unescape e).map fun c => (c, rest)
      | [] => .none

theorem hexValue_hexDigit : ∀ n < 32, 16 * hexValue (hexDigit (n / 16)) + hexValue (hexDigit (n % 16)) = n := by
  decide

/-- Reading undoes escaping. -/
theorem readChar_escapeChar (c : Char) (rest : List Char) : readChar (escapeChar c ++ rest) = .some (c, rest) := by
  unfold escapeChar
  cases hshort : shortEscapes.lookup c with
  | some e =>
    have hmem : (c, e) ∈ shortEscapes := List.lookup_eq_some_iff.1 hshort |> fun ⟨l₁, l₂, h, _⟩ => by simp [h]
    simp only [shortEscapes, List.mem_cons, Prod.mk.injEq, List.not_mem_nil, or_false] at hmem
    rcases hmem with ⟨rfl, rfl⟩ | ⟨rfl, rfl⟩ | ⟨rfl, rfl⟩ | ⟨rfl, rfl⟩ | ⟨rfl, rfl⟩ | ⟨rfl, rfl⟩ | ⟨rfl, rfl⟩ <;> rfl
  | none =>
    rw [List.lookup_eq_none_iff] at hshort
    have hquote : c ≠ quote := by simpa using hshort (quote, quote) (by decide)
    have hbackslash : c ≠ backslash := by simpa using hshort (backslash, backslash) (by decide)
    dsimp only
    split
    · next hlt =>
      show Option.some (Char.ofNat _, rest) = _
      rw [hexValue_hexDigit _ hlt, Char.ofNat_toNat]
    · simp only [List.singleton_append, readChar, if_neg hquote, ne_eq, hbackslash, not_false_eq_true, if_true]

@[simp] theorem escape_cons (c : Char) (s : List Char) : escape (c :: s) = escapeChar c ++ escape s :=
  List.flatMap_cons

/-- **A string's text says what it is of, and where it ends.** -/
theorem escape_append_inj : ∀ {s s' r r' : List Char}, escape s ++ quote :: r = escape s' ++ quote :: r' →
    s = s' ∧ r = r'
  | [], [], r, r', h => ⟨rfl, (List.cons.inj h).2⟩
  | [], c :: s', r, r', h => by
    have hread := congrArg readChar h
    simp only [escape_cons, List.append_assoc, readChar_escapeChar] at hread
    cases hread
  | c :: s, [], r, r', h => by
    have hread := congrArg readChar h
    simp only [escape_cons, List.append_assoc, readChar_escapeChar] at hread
    cases hread
  | c :: s, c' :: s', r, r', h => by
    have hread := congrArg readChar h
    simp only [escape_cons, List.append_assoc, readChar_escapeChar, Option.some.injEq, Prod.mk.injEq] at hread
    obtain ⟨rfl, hrest⟩ := hread
    obtain ⟨rfl, hr⟩ := escape_append_inj hrest
    exact ⟨rfl, hr⟩

/-- Two lists cut at the first place that a character stands. -/
theorem append_cons_inj {c c' : Char} : ∀ {l l' r r' : List Char}, l ++ c :: r = l' ++ c' :: r' → c' ∉ l → c ∉ l' →
    l = l' ∧ c = c' ∧ r = r'
  | [], [], _, _, h, _, _ => ⟨rfl, List.cons.inj h⟩
  | [], d :: l', _, _, h, _, hc' => absurd ((List.cons.inj h).1 ▸ List.mem_cons_self) hc'
  | d :: l, [], _, _, h, hc, _ => absurd ((List.cons.inj h).1 ▸ List.mem_cons_self) hc
  | d :: l, d' :: l', _, _, h, hc, hc' => by
    rw [List.cons_append, List.cons_append] at h
    obtain ⟨rfl, htail⟩ := List.cons.inj h
    obtain ⟨rfl, hr⟩ := append_cons_inj htail (fun hm => hc (List.mem_cons_of_mem _ hm)) fun hm =>
      hc' (List.mem_cons_of_mem _ hm)
    exact ⟨rfl, hr⟩

/-- **A number's text says what it is of, and where it ends.** -/
theorem toDigits_append_inj {m n : Nat} {c : Char} {r r' : List Char} (hc : c.isDigit = false)
    (h : Nat.toDigits 10 m ++ c :: r = Nat.toDigits 10 n ++ c :: r') : m = n ∧ r = r' := by
  have hnot : ∀ k, c ∉ Nat.toDigits 10 k := fun k hmem => by
    rw [Nat.isDigit_of_mem_toDigits (by decide) (by decide) hmem] at hc
    cases hc
  obtain ⟨hdigits, _, hr⟩ := append_cons_inj h (hnot m) (hnot n)
  have hvalue := congrArg (fun l => Nat.ofDigitChars 10 l 0) hdigits
  simp only [Nat.ofDigitChars_ten_toDigits] at hvalue
  exact ⟨hvalue, hr⟩

end JsonText

end Base
