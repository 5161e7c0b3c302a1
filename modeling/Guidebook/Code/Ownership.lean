import Guidebook.Code.Rule

namespace Guidebook

/-!
# Who owns the characters of a line

Rules claim a line one after the other in a table that all of them share.  It
holds for every character the number of the claim that owns it, and for every
claim its kind.  A character that is owned stays so: a rule is only ever run on
the runs of characters that nobody owns yet, each as a text of its own.
-/

/-- The claim that owns each character of a line, if any, and the kind of each claim. -/
structure Ownership where
  owners : Array (Option Nat)
  kinds : Array TokenKind
  deriving Repr, DecidableEq

namespace Ownership

/-- The table of a line of which nothing is claimed. -/
def unclaimed (line : Text) : Ownership where
  owners := Array.replicate line.length none
  kinds := #[]

/-- The owner of a place. -/
def ownerAt (table : Ownership) (place : Nat) : Option Nat :=
  table.owners.getD place none

/-- The first place from a given one on that does not belong to an owner. -/
def runEnd (owners : Array (Option Nat)) (owner : Option Nat) (place : Nat) : Nat :=
  if inside : place < owners.size then
    if owners[place] = owner then runEnd owners owner (place + 1) else place
  else
    place
termination_by owners.size - place

/-- The end of the run of places that share the owner of a place. -/
def nextChange (table : Ownership) (start : Nat) : Nat :=
  runEnd table.owners (table.ownerAt start) (start + 1)

theorem le_runEnd (owners : Array (Option Nat)) (owner : Option Nat) (place : Nat) :
    place ≤ runEnd owners owner place := by
  fun_induction runEnd owners owner place with
  | case1 place inside same inductionHypothesis =>
      exact Nat.le_of_succ_le inductionHypothesis
  | case2 | case3 =>
      exact Nat.le_refl _

theorem lt_nextChange (table : Ownership) (start : Nat) : start < table.nextChange start :=
  le_runEnd table.owners (table.ownerAt start) (start + 1)

/-- Gives the places from one up to another one to a new claim of a kind. -/
def give (table : Ownership) (kind : TokenKind) (start stop : Nat) : Ownership where
  owners :=
    table.owners.extract 0 start ++
      Array.replicate (stop - start) (some table.kinds.size) ++
        table.owners.extract stop
  kinds := table.kinds.push kind

/-- Lets a rule claim what it can of the part of a line from one place up to another one. -/
def claim (table : Ownership) (rule : Rule) (line : Text) (start stop : Nat) : Ownership :=
  (rule.claims (line.slice start stop)).foldl
    (fun table extent =>
      if extent.isEmpty then table
      else table.give rule.kind (start + extent.start) (start + extent.stop))
    table

/-- Lets a rule claim what it can of each unowned run of a line, from a place on. -/
def sweep (table : Ownership) (rule : Rule) (line : Text) (start : Nat) : Ownership :=
  if start < line.length then
    if (table.ownerAt start).isSome then
      table.sweep rule line (start + 1)
    else
      (table.claim rule line start (table.nextChange start)).sweep rule line
        (table.nextChange start)
  else
    table
termination_by line.length - start
decreasing_by
  · omega
  · have further := table.lt_nextChange start
    omega

/-- The fragments of a line from a place on: one for each run of places with one owner. -/
def fragmentsFrom (table : Ownership) (line : Text) (start : Nat) : List Fragment :=
  if start < line.length then
    let stop := table.nextChange start
    ⟨(table.ownerAt start).bind (table.kinds[·]?), line.slice start stop⟩ ::
      table.fragmentsFrom line stop
  else
    []
termination_by line.length - start
decreasing_by
  have further := table.lt_nextChange start
  omega

end Ownership

/-- Classifies a line by rules in order: each sees only what those before it left plain. -/
def Rule.classify (rules : List Rule) (line : Text) : List Fragment :=
  let table :=
    rules.foldl (fun table rule => table.sweep rule line 0) (Ownership.unclaimed line)
  table.fragmentsFrom line 0

end Guidebook
