/-!
# Ascending lists

Sets of names and of records with a key are kept as lists in strictly ascending order, so
that a set has one form.  Texts ascend by code points; an absent text comes before every
other.
-/

namespace DocContract

/-- Inserts an element into an ascending list; one that is neither before nor after another
is that other. -/
def insertAscending {α : Type} (before : α → α → Bool) (a : α) : List α → List α
  | [] => [a]
  | b :: bs =>
    if before a b then a :: b :: bs
    else if before b a then b :: insertAscending before a bs
    else b :: bs

def ascending {α : Type} (before : α → α → Bool) (as : List α) : List α :=
  as.foldl (fun set a => insertAscending before a set) []

def textBefore (a b : String) : Bool :=
  decide (a < b)

def insertText (text : String) (set : List String) : List String :=
  insertAscending textBefore text set

def textSet (texts : List String) : List String :=
  ascending textBefore texts

def unionTexts (set added : List String) : List String :=
  added.foldl (fun set text => insertText text set) set

/-- The order of keys made of texts that may be absent, by the first that differs. -/
def keyBefore : List (Option String) → List (Option String) → Bool
  | [], [] => false
  | [], _ :: _ => true
  | _ :: _, [] => false
  | none :: as, none :: bs => keyBefore as bs
  | none :: _, some _ :: _ => true
  | some _ :: _, none :: _ => false
  | some a :: as, some b :: bs => textBefore a b || (a == b && keyBefore as bs)

end DocContract
