import DocContract.Schema.Ascending

/-!
# Fields

The type of a field is a plain type, a reference to a symbol by its name, or built from
other types. Fields of one name describe one field: they merge when they have the same
shape, the values of the discriminator under which the field occurs are united, and the
first comment stays.
-/

namespace DocContract

inductive TypeRef where
  | string
  | boolean
  | integer
  | number
  /-- A point in time, as text. -/
  | timestamp
  /-- Any JSON. -/
  | any
  /-- The symbol with a name. -/
  | named (name : String)
  /-- The generic symbol with a name, applied to a type. -/
  | generic (name : String) (argument : TypeRef)
  | list (item : TypeRef)
  /-- A map with text keys. -/
  | map (value : TypeRef)
  /-- The type parameter of the record around the field. -/
  | parameter (name : String)
deriving DecidableEq, Repr

/-- The names of the symbols that a type refers to, from the outside in. -/
def TypeRef.referencedNames : TypeRef → List String
  | named name => [name]
  | generic name argument => name :: argument.referencedNames
  | list item => item.referencedNames
  | map value => value.referencedNames
  | _ => []

/-- Under which values of a discriminator a field occurs. -/
inductive Discriminator where
  /-- Under these values, which ascend. -/
  | values (values : List String)
  /-- Under every value that is not empty. -/
  | notEmpty
deriving DecidableEq, Repr

structure Field where
  name : String
  type : TypeRef
  comment : String := ""
  /-- The field may be absent. -/
  optional : Bool := false
  /-- The field is left out when it is empty. -/
  omitEmpty : Bool := false
  /-- The field holds what is particular to a variant of a closed union. -/
  typeSpecific : Bool := false
  discriminator : Option Discriminator := none
  /-- The constant that the field always holds. -/
  literal : Option String := none
deriving DecidableEq, Repr

/-- What can be said of a field beyond its name, type and comment. -/
inductive FieldOption where
  | omitEmpty
  | optional
  /-- The field occurs under this value of the discriminator. -/
  | discriminatorValue (value : String)
  /-- The field occurs whenever the discriminator is not empty. -/
  | discriminatorNotEmpty
  | typeSpecific
deriving DecidableEq, Repr

namespace Field

def withOption (field : Field) : FieldOption → Field
  | .omitEmpty => { field with omitEmpty := true }
  | .optional => { field with optional := true }
  | .typeSpecific => { field with typeSpecific := true }
  | .discriminatorNotEmpty => { field with discriminator := some .notEmpty }
  | .discriminatorValue value =>
    match field.discriminator with
    | some (.values values) =>
      { field with discriminator := some (.values (insertText value values)) }
    | _ => { field with discriminator := some (.values [value]) }

def withOptions (field : Field) (options : List FieldOption) : Field :=
  options.foldl withOption field

/-- The values of the discriminator under which a field is known to occur. -/
def discriminatorValues (field : Field) : List String :=
  match field.discriminator with
  | some (.values values) => values
  | _ => []

/-- Whether two fields agree in everything but name, comment and discriminator. -/
def sameShape (a b : Field) : Bool :=
  a.type == b.type && a.optional == b.optional && a.omitEmpty == b.omitEmpty &&
    a.typeSpecific == b.typeSpecific && a.literal == b.literal

/-- The discriminator of a field for which two are given. -/
def mergeDiscriminators : Option Discriminator → Option Discriminator →
    Option (Option Discriminator)
  | some (.values values), some (.values added) =>
      some (some (.values (unionTexts values added)))
  | current, added => if current = added then some current else none

/-- A field that is described twice, unless the descriptions contradict each other. -/
def absorb? (field added : Field) : Option Field :=
  if field.sameShape added then
    (mergeDiscriminators field.discriminator added.discriminator).map fun discriminator =>
      { field with
        discriminator
        comment := if field.comment.isEmpty then added.comment else field.comment }
  else none

end Field

/-- Adds a field to others; answers all of them and the field as it is now. -/
def mergeField? : List Field → Field → Option (List Field × Field)
  | [], added => some ([added], added)
  | field :: fields, added =>
    if field.name = added.name then
      (field.absorb? added).map fun merged => (merged :: fields, merged)
    else
      (mergeField? fields added).map fun (merged, stored) => (field :: merged, stored)

end DocContract
