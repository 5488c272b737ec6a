import BuildBroker.Json.Value

/-!
# JSON Documents as Far as They Go

A document is decoded while it is read, so a part that does not fit its type is reported even where
the text after it is no JSON at all. `Doc` is the tree of a text as far as the text is JSON: the
place where it stops being JSON is a leaf `broken` or an unfinished list. Reading never fails; what
is wrong is found by walking the tree in the order of the text.

A string is kept even if it has no value (`none`): it may hold half of a surrogate pair or octets
that are not text, which matters only to someone who needs its value.
-/

namespace BuildBroker.Json

mutual

/-- The tree of a text as far as it is JSON. -/
inductive Doc where
  | null
  | bool (b : Bool)
  | number (n : Number)
  | string (text : Option String)
  | array (items : Items)
  | object (members : Members)
  | broken

/-- The items of an array; `cut` where no further item or end can be read. -/
inductive Items where
  | done
  | cut
  | item (first : Doc) (rest : Items)

/-- The members of an object; `cut` where no further member or end can be read. -/
inductive Members where
  | done
  | cut
  | member (key : Option String) (value : Doc) (rest : Members)

end

mutual

/-- Whether the text of the value was complete. -/
def Doc.intact : Doc → Bool
  | .array items => items.intact
  | .object members => members.intact
  | .broken => false
  | _ => true

/-- Whether the text of the items was complete. -/
def Items.intact : Items → Bool
  | .done => true
  | .cut => false
  | .item first rest => first.intact && rest.intact

/-- Whether the text of the members was complete. -/
def Members.intact : Members → Bool
  | .done => true
  | .cut => false
  | .member _ value rest => value.intact && rest.intact

end

/-- How deeply a value may be nested where it is kept. -/
def depthLimit : Nat := 127

mutual

/-- The value of a document of which everything is kept, at most `room` levels deep. -/
def Doc.value? (room : Nat) : Doc → Option Value
  | .null => some .null
  | .bool b => some (.bool b)
  | .number n => if n.isInRange then some (.number n) else none
  | .string text => text.map .string
  | .array items =>
    match room with
    | 0 => none
    | room + 1 => (Items.values? room items).map .array
  | .object members =>
    match room with
    | 0 => none
    | room + 1 => (Members.values? room members).map .object
  | .broken => none

/-- The values of the items. -/
def Items.values? (room : Nat) : Items → Option (List Value)
  | .done => some []
  | .cut => none
  | .item first rest => do
    let v ← Doc.value? room first
    let vs ← Items.values? room rest
    some (v :: vs)

/-- The values of the members. -/
def Members.values? (room : Nat) : Members → Option (List (String × Value))
  | .done => some []
  | .cut => none
  | .member key value rest => do
    let k ← key
    let v ← Doc.value? room value
    let vs ← Members.values? room rest
    some ((k, v) :: vs)

end

end BuildBroker.Json
