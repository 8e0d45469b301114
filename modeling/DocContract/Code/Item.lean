import DocContract.Naming.Identifier

/-!
# Items of the generated code

What a module of the generated code consists of.  All identifiers are decided here, and so
are the cases of a look-up; the printer adds nothing but the fixed text around them.
-/

namespace DocContract.Code

open DocContract.Naming (Ident)

inductive TypeExpr where
  | text
  | boolean
  | integer
  | number
  /-- Any JSON value. -/
  | json
  /-- A type that a module declares. -/
  | declared (ident : Ident)
  | applied (ident : Ident) (argument : TypeExpr)
  | sequence (item : TypeExpr)
  /-- A map with text keys. -/
  | map (value : TypeExpr)
  /-- The type parameter of the declaration around the field. -/
  | parameter (ident : Ident)
deriving DecidableEq, Repr

/-- Which values of a discriminator lead where. -/
structure Dispatch where
  key : String
  /-- Values with the field or member that they select. -/
  entries : List (List String × String)
deriving DecidableEq, Repr

structure DocComment where
  text : String
  dispatch : Option Dispatch := none
deriving DecidableEq, Repr

structure FieldDecl where
  comment : String
  /-- The name of the field in the JSON. -/
  name : String
  ident : Ident
  type : TypeExpr
  optional : Bool
deriving DecidableEq, Repr

/-- A variant of an enumeration, which carries a type that may be applied to another. -/
structure Variant where
  ident : Ident
  member : Ident
  argument : Option Ident
deriving DecidableEq, Repr

/-- A case of a look-up: the value that selects a field. -/
structure Arm where
  value : String
  field : String
deriving DecidableEq, Repr

/-- The test that examples decode as a type. -/
structure DecodeTest where
  name : Ident
  target : Ident
  argument : Option Ident
  payloads : List String
deriving DecidableEq, Repr

inductive Item where
  | struct (doc : DocComment) (ident : Ident) (parameter : Option Ident)
      (fields : List FieldDecl)
  /-- The function from the value of the key to the name of the field that it selects. -/
  | lookup (ident : Ident) (key : Ident) (arms : List Arm)
  | enumeration (doc : DocComment) (ident : Ident) (variants : List Variant)
  /-- A type that holds any JSON value. -/
  | wrapper (doc : DocComment) (ident : Ident)
  /-- A type whose only value is a constant string. -/
  | constant (ident : Ident) (value : String)
  | decodeTest (test : DecodeTest)
  /-- Tests in a module of their own. -/
  | decodeTests (tests : List DecodeTest)
deriving DecidableEq, Repr

end DocContract.Code
