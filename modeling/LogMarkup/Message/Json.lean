import LogMarkup.Json
import LogMarkup.Json.DecodeError
import LogMarkup.Message.Grouped

/-!
# Messages in JSON

A message becomes an object with its template, its values and its errors, each by name. A name
with one value has a string, a name with several an array of strings. The values alone can also
be decoded into typed data.

* `messageObject`: the whole message.
* `valuesObject`: the values by name, which the decoders read.
-/

namespace LogMarkup

open Json

/-! ## Objects -/

/-- The texts of one name as a value, unless there are none. -/
def valueOfTexts : List Text → Option Json
  | [] => none
  | [t] => some (.text t)
  | texts => some (.array (texts.map .text))

/-- A field for each name with texts. -/
def fieldsOf (texts : List ArgValue → List Text) (groups : ArgGroups) : List (Text × Json) :=
  groups.entries.filterMap fun (name, values) => (valueOfTexts (texts values)).map (name, ·)

/-- The texts of the values that are no errors. -/
def valueTexts (values : List ArgValue) : List Text :=
  (values.filter (!·.isError)).map ArgValue.text

/-- The texts of the errors. -/
def errorTexts (values : List ArgValue) : List Text :=
  (values.filter (·.isError)).map ArgValue.text

/-- The values of a message by name. -/
def valuesObject (groups : ArgGroups) : List (Text × Json) := fieldsOf valueTexts groups

/-- The errors of a message by name. -/
def errorsObject (groups : ArgGroups) : List (Text × Json) := fieldsOf errorTexts groups

/-- A message as a JSON object. -/
def messageObject (message : Text) : Except (ReadError Empty) Json :=
  let groups := readGroups message (some [])
  groups.result.map fun args => .object
    [("args".toList, .object (valuesObject args)),
     ("errors".toList, .object (errorsObject args)),
     ("template".toList, .text (groups.template.getD []))]

/-- All values and errors of each name as arrays of texts. -/
def groupsObject (groups : ArgGroups) : Json :=
  .object (groups.entries.map fun (name, values) =>
    (name, .array (values.map fun v => .text v.text)))

/-! ## Decoding values -/

/-- What is found where a value of another kind is expected. -/
def Json.found : Json → Found
  | .null => .null
  | .text t => .text t
  | .array _ => .sequence
  | .object _ => .map

def Json.asText : Json → Except DecodeError Text
  | .text t => .ok t
  | other => .error (.invalidType other.found "a string".toList)

def Json.asTexts : Json → Except DecodeError (List Text)
  | .array items => items.mapM Json.asText
  | other => .error (.invalidType other.found "a sequence".toList)

/-- Decodes every field in the same way. -/
def decodeFields {α : Type} (decode : Json → Except DecodeError α)
    (fields : List (Text × Json)) : Except DecodeError (List (Text × α)) :=
  fields.mapM fun (name, value) => (decode value).map (name, ·)

/-- A purchase as it is logged: by whom, which items, and for which price. -/
structure Purchase where
  user : Text
  items : List Text
  price : Option Text

namespace Purchase

/-- The fields found so far. -/
structure Draft where
  user : Option Text
  items : Option (List Text)
  price : Option Text

/-- Decodes a field. Fields with other names are passed over. -/
def Draft.addField (draft : Draft) (name : Text) (value : Json) : Except DecodeError Draft :=
  if name = "user".toList then value.asText.map fun t => { draft with user := some t }
  else if name = "items".toList then value.asTexts.map fun ts => { draft with items := some ts }
  else if name = "price".toList then match value with
    | .null => .ok draft
    | _ => value.asText.map fun t => { draft with price := some t }
  else .ok draft

/-- Decodes a purchase. The items may be missing, and so may the price. -/
def ofFields (fields : List (Text × Json)) : Except DecodeError Purchase := do
  let draft ← fields.foldlM (fun draft (name, value) => draft.addField name value)
    (⟨none, none, none⟩ : Draft)
  match draft.user with
  | none => .error (.missingField "user".toList)
  | some user => .ok ⟨user, draft.items.getD [], draft.price⟩

def toJson (p : Purchase) : Json :=
  .object
    [("items".toList, .array (p.items.map .text)),
     ("price".toList, p.price.elim .null .text),
     ("user".toList, .text p.user)]

end Purchase

/-! ## Decoding messages -/

/-- Why a message could not be decoded. -/
inductive MessageDecodeError where
  | message (error : ReadError Empty)
  | json (error : DecodeError)

/-- Decodes the values of a message. -/
def decodeMessage {α : Type} (decode : List (Text × Json) → Except DecodeError α)
    (message : Text) : Except MessageDecodeError α :=
  match (readGroups message none).result with
  | .error error => .error (.message error)
  | .ok groups => (decode (valuesObject groups)).mapError .json

end LogMarkup
