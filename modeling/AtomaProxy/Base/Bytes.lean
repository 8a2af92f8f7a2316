/-
Byte strings: ASCII literals as bytes, prefixes, and UTF-8 validity as a run
of a small automaton, so that the validity of a text cut in two is a statement
about where the automaton stands at the cut.
-/
import Mathlib.Data.List.Basic

namespace Base

/-- The bytes of a text of ASCII characters. -/
def ascii (s : String) : List UInt8 := s.toList.map fun c => UInt8.ofNat c.toNat

/-- `strip_prefix(p).unwrap_or(s)`. -/
def stripPrefix (p s : List UInt8) : List UInt8 := if p.isPrefixOf s then s.drop p.length else s

/-- `to_le_bytes` of a number of `n` bytes. -/
def toLeBytes : Nat → Nat → List UInt8
  | 0, _ => []
  | n + 1, x => UInt8.ofNat x :: toLeBytes n (x / 256)

def hexDigit (n : Nat) : Char := if n < 10 then Char.ofNat (48 + n) else Char.ofNat (87 + n)

/-- `hex::encode`. -/
def hexEncode (bs : List UInt8) : String :=
  String.ofList (bs.flatMap fun b => [hexDigit (b.toNat / 16), hexDigit (b.toNat % 16)])

/-- What the automaton still expects of the character it is in. -/
inductive Utf8 where
  | boundary
  /-- that many more continuation bytes -/
  | tail (more : Nat)
  /-- a second byte from a narrower range, and that many more continuation bytes -/
  | second (low high : UInt8) (more : Nat)
  deriving DecidableEq, Repr

namespace Utf8

def afterByte (more : Nat) : Utf8 := if more = 0 then .boundary else .tail more

def isContinuation (b : UInt8) : Bool := 0x80 ≤ b && b ≤ 0xBF

def step : Utf8 → UInt8 → Option Utf8
  | .boundary, b =>
    if b < 0x80 then .some .boundary
    else if 0xC2 ≤ b && b ≤ 0xDF then .some (.tail 1)
    else if b = 0xE0 then .some (.second 0xA0 0xBF 1)
    else if b = 0xED then .some (.second 0x80 0x9F 1)
    else if 0xE1 ≤ b && b ≤ 0xEF then .some (.tail 2)
    else if b = 0xF0 then .some (.second 0x90 0xBF 2)
    else if 0xF1 ≤ b && b ≤ 0xF3 then .some (.tail 3)
    else if b = 0xF4 then .some (.second 0x80 0x8F 2)
    else .none
  | .tail more, b => if isContinuation b then .some (afterByte (more - 1)) else .none
  | .second low high more, b => if low ≤ b && b ≤ high then .some (afterByte more) else .none

def run (s : Utf8) : List UInt8 → Option Utf8
  | [] => .some s
  | b :: bs => (step s b).bind fun s' => run s' bs

end Utf8

/-- `str::from_utf8` accepts the bytes. -/
def validUtf8 (bs : List UInt8) : Bool := Utf8.run .boundary bs = .some .boundary

theorem Utf8.run_append : ∀ (bs cs : List UInt8) (s : Utf8),
    s.run (bs ++ cs) = (s.run bs).bind fun s' => s'.run cs
  | [], _, _ => rfl
  | b :: bs, cs, s => by
    simp only [List.cons_append, run, Option.bind_assoc]
    cases s.step b with
    | none => rfl
    | some s' => exact run_append bs cs s'

/-- A text after a valid one is valid on its own exactly when the two together are. -/
theorem validUtf8_append {bs cs : List UInt8} (h : validUtf8 bs) : validUtf8 (bs ++ cs) = validUtf8 cs := by
  simp only [validUtf8, decide_eq_true_eq] at h
  simp only [validUtf8, Utf8.run_append, h, Option.bind_some]

theorem validUtf8_append_of {bs cs : List UInt8} (hb : validUtf8 bs) (hc : validUtf8 cs) : validUtf8 (bs ++ cs) :=
  (validUtf8_append hb).trans hc

theorem validUtf8_of_ascii {bs : List UInt8} (h : ∀ b ∈ bs, b < 0x80) : validUtf8 bs := by
  induction bs with
  | nil => rfl
  | cons b bs ih =>
    rw [← List.singleton_append]
    refine validUtf8_append_of ?_ (ih fun c hc => h c (List.mem_cons_of_mem b hc))
    simp [validUtf8, Utf8.run, Utf8.step, h b List.mem_cons_self]

theorem isPrefixOf_eq_false {p s : List UInt8} (h : ¬ p <+: s) : p.isPrefixOf s = false := by
  rw [Bool.eq_false_iff, ne_eq, List.isPrefixOf_iff_prefix]
  exact h

theorem stripPrefix_append (p s : List UInt8) : stripPrefix p (p ++ s) = s := by
  have h : p.isPrefixOf (p ++ s) = true := List.isPrefixOf_iff_prefix.2 (List.prefix_append p s)
  rw [stripPrefix, if_pos h, List.drop_left]

theorem stripPrefix_of_not {p s : List UInt8} (h : ¬ p <+: s) : stripPrefix p s = s := by
  rw [stripPrefix, isPrefixOf_eq_false h, if_neg Bool.false_ne_true]

end Base
