/-
A builder of query texts: what is pushed is appended as it stands, and what is
bound is appended as the next numbered placeholder, its value kept beside the
text in the same order.
-/
import AtomaProxy.Base.Sql

namespace Base

structure QueryBuilder (α : Type _) where
  query : String
  arguments : List α
  deriving DecidableEq, Repr

/-- A builder that puts a separator before all that it binds but the first. -/
structure Separated (α : Type _) where
  queryBuilder : QueryBuilder α
  separator : String
  pushSeparator : Bool
  deriving DecidableEq, Repr

namespace QueryBuilder

variable {α : Type _}

def new (init : String) : QueryBuilder α := { query := init, arguments := [] }

def push (b : QueryBuilder α) (sql : String) : QueryBuilder α := { b with query := b.query ++ sql }

def pushBind (b : QueryBuilder α) (value : α) : QueryBuilder α :=
  { query := b.query ++ "$" ++ (b.arguments.length + 1).repr, arguments := b.arguments ++ [value] }

def separated (b : QueryBuilder α) (separator : String) : Separated α :=
  { queryBuilder := b, separator, pushSeparator := false }

@[simp] theorem new_query (init : String) : (new init : QueryBuilder α).query = init := rfl
@[simp] theorem new_arguments (init : String) : (new init : QueryBuilder α).arguments = [] := rfl
@[simp] theorem push_query (b : QueryBuilder α) (sql : String) : (b.push sql).query = b.query ++ sql := rfl
@[simp] theorem push_arguments (b : QueryBuilder α) (sql : String) : (b.push sql).arguments = b.arguments := rfl
@[simp] theorem pushBind_arguments (b : QueryBuilder α) (v : α) : (b.pushBind v).arguments = b.arguments ++ [v] := rfl

/-- What is bound is read as its placeholder. -/
theorem scan_pushBind {b : QueryBuilder α} {ts : List Sql.Token} (v : α)
    (h : Sql.scan .none b.query.toList = (ts, .none)) :
    Sql.scan .none (b.pushBind v).query.toList = (ts, .parameter (b.pushBind v).arguments.length) := by
  have hplaceholder := Sql.scan_append_of h (Sql.scan_placeholder (b.arguments.length + 1))
  simpa [pushBind, Nat.toList_repr] using hplaceholder

end QueryBuilder

namespace Separated

variable {α : Type _}

def pushBind (s : Separated α) (value : α) : Separated α :=
  let b := if s.pushSeparator then s.queryBuilder.push s.separator else s.queryBuilder
  { s with queryBuilder := b.pushBind value, pushSeparator := true }

def pushUnseparated (s : Separated α) (sql : String) : Separated α := { s with queryBuilder := s.queryBuilder.push sql }

theorem foldl_pushBind_arguments (s : Separated α) (vs : List α) :
    (vs.foldl pushBind s).queryBuilder.arguments = s.queryBuilder.arguments ++ vs := by
  induction vs generalizing s with
  | nil => simp
  | cons v vs ih =>
    rw [List.foldl_cons, ih]
    unfold pushBind
    split <;> simp

/-- The rest of a list of which something is bound: each placeholder that is open is ended by the next separator. -/
theorem scan_foldl_pushBind {s : Separated α} {ts : List Sql.Token} (vs : List α) (hsep : s.separator = ", ")
    (hpush : s.pushSeparator = true)
    (h : Sql.scan .none s.queryBuilder.query.toList = (ts, .parameter s.queryBuilder.arguments.length)) :
    Sql.scan .none (vs.foldl pushBind s).queryBuilder.query.toList =
      (ts ++ (List.range' s.queryBuilder.arguments.length vs.length).flatMap (fun k => [.parameter k, .symbol ',']),
        .parameter (s.queryBuilder.arguments.length + vs.length)) := by
  induction vs generalizing s ts with
  | nil => simpa using h
  | cons v vs ih =>
    have hcomma (k : Nat) : Sql.scan (.parameter k) ", ".toList = ([.parameter k, .symbol ','], .none) := rfl
    have hopen : Sql.scan .none (s.queryBuilder.push ", ").query.toList =
        (ts ++ [.parameter s.queryBuilder.arguments.length, .symbol ','], .none) := by
      rw [QueryBuilder.push_query, String.toList_append]
      exact Sql.scan_append_of h (hcomma _)
    have hnext := QueryBuilder.scan_pushBind v hopen
    have hbound : s.pushBind v = ⟨(s.queryBuilder.push ", ").pushBind v, ", ", true⟩ := by
      simp [pushBind, hpush, hsep]
    have hrest := ih (s := ⟨(s.queryBuilder.push ", ").pushBind v, ", ", true⟩) rfl rfl hnext
    rw [List.foldl_cons, hbound, hrest]
    simp [List.range'_succ, Nat.add_assoc, Nat.add_comm 1]

end Separated

end Base
