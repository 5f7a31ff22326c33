import GridQuery.Error
import GridQuery.Value.Text

/-!
Plain values, in the form answers hold them.  Days and moments are ISO texts,
identifiers are texts, decimals are doubles, and a tuple is a list; whatever
stands inside lists and objects is plain too.
-/

namespace GridQuery.Value

mutual

/-- The plain form of a value; only a signaling undefined number has none. -/
def plain : Value → Outcome Value
  | date day => .ok (.str day.isoText)
  | moment time => .ok (.str time.isoText)
  | uuid id => .ok (.str id.text)
  | decimal d =>
      match d.toDouble? with
      | some x => .ok (.float x)
      | none => giveUp .signalingNumber
  | list items | tuple items => do .ok (.list (← plainItems items))
  | object members => do .ok (.object (← plainMembers members))
  | value => .ok value

def plainItems : List Value → Outcome (List Value)
  | [] => .ok []
  | item :: rest => do .ok ((← plain item) :: (← plainItems rest))

def plainMembers : List (String × Value) → Outcome (List (String × Value))
  | [] => .ok []
  | (name, value) :: rest => do .ok ((name, ← plain value) :: (← plainMembers rest))

end

end GridQuery.Value
