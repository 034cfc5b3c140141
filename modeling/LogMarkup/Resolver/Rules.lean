import LogMarkup.Resolver

/-!
# Rule tables

A resolver given as data: the first rule that fits the index and name of the argument says what
to write and how to end. Several tables may take part in one lookup; each counts how often it
was asked, and its rules may write the count.
-/

namespace LogMarkup

/-- What a rule writes, piece by piece. -/
inductive RulePiece where
  | piece (p : Piece)
  | index
  | name
  /-- How often the table was asked so far, this time included. -/
  | calls

/-- How a rule ends after its pieces were written. -/
inductive RuleEnd where
  | value
  | format
  /-- Missing, under the index and name of the argument or under others. -/
  | missing (reported : Option (Nat × Text))
  | custom (message : Text)

structure Rule where
  /-- The name that the rule is for, or any. -/
  name : Option Text
  /-- The index that the rule is for, or any. -/
  index : Option Nat
  pieces : List RulePiece
  ending : RuleEnd

/-- The number of calls of each table. -/
abbrev CallCounts := List Nat

namespace Rule

def fits (rule : Rule) (index : Nat) (name : Text) : Bool :=
  rule.name.all (· = name) && rule.index.all (· = index)

def pieceWriting (index : Nat) (name : Text) (calls : Nat) :
    RulePiece → Writing FormatFailure
  | .piece p => p.writing
  | .index => .done [.text (decimal index)]
  | .name => .done [.text name]
  | .calls => .done [.text (decimal calls)]

def endWriting (index : Nat) (name : Text) : RuleEnd → Writing ResolveError
  | .value => .done []
  | .format => .fail .format
  | .missing none => .fail (.missing index name)
  | .missing (some (index, name)) => .fail (.missing index name)
  | .custom message => .fail (.custom message)

def answer (rule : Rule) (index : Nat) (name : Text) (calls : Nat) : Answer :=
  let pieces := rule.pieces.foldr
    (fun p rest => (pieceWriting index name calls p).andThen rest) (.done [])
  .direct ((pieces.mapError fun _ => .format).andThen (endWriting index name rule.ending))

end Rule

/-- Answers by the first rule that fits. The table has its count in the given place. -/
def Resolver.rules (table : List Rule) (place : Nat) : Resolver CallCounts :=
  fun index name counts =>
    let counts := counts.modify place (· + 1)
    match table.find? (·.fits index name) with
    | some rule => (rule.answer index name (counts[place]?.getD 0), counts)
    | none => (.fail (.custom "no rule".toList), counts)

end LogMarkup
