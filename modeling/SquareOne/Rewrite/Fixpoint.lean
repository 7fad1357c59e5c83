import SquareOne.Rewrite.Table

/-! Rewriting a text with a table until a pass leaves it unchanged.

A pass goes through the text once from the left. It replaces the longest key that starts where it
stands and goes on behind it, so that a key next to another one, which shares a space with it, waits
for the next pass.
-/

namespace SquareOne.Rewrite

/-- The number of passes after which rewriting usually gives up. -/
def passLimit : Int := 64

namespace Table

/-- A pass over a text whose first `taken` characters belong to the key that was replaced last. -/
def passAfter (table : Table) : Nat → Text → Text
  | _, [] => []
  | taken + 1, _ :: rest => table.passAfter taken rest
  | 0, char :: rest =>
      match table.match? (char :: rest) with
      | some (key, replacement) => replacement ++ table.passAfter (key.length - 1) rest
      | none => char :: table.passAfter 0 rest

def pass (table : Table) (subject : Text) : Text :=
  table.passAfter 0 subject

/-- Makes at most `passes` passes, the last of which has to leave the text as it is. -/
def settle? (table : Table) : Nat → Text → Option Text
  | 0, _ => none
  | passes + 1, subject =>
      let replaced := table.pass subject
      if replaced = subject then some subject else table.settle? passes replaced

/-- Rewrites a text set between spaces, and takes one character off at both ends of the result.
Without any rules nothing is done, not even a pass. -/
def rewriteWithin (table : Table) (passes : Int) (text : Text) : Except Fault Text :=
  if table.rules.size = 0 then .ok text
  else
    match table.settle? passes.toNat (pad text) with
    | some settled => .ok (settled.drop 1).dropLast
    | none => .error (.unsettled passes)

def rewrite (table : Table) (text : Text) : Except Fault Text :=
  table.rewriteWithin passLimit text

end Table

end SquareOne.Rewrite
