import PlacedText.Store.Basic

/-! # The page tree

The pages of a document are the leaves of a tree. A page inherits attributes from the nodes above
it.
-/

namespace PlacedText

namespace Store

/-- The children of a node of the page tree. -/
def kids? (store : Store) (id : Nat) : Option (List Object) := do
  let node ← (store.dictionary id).toOption
  (← store.dereference? (← node.find? "Kids")).array?

/-- The most levels of the tree that are kept open at once. -/
def maxOpenLevels : Nat := 256

/-- The type that a node gives itself. -/
def nodeType? (store : Store) (id : Nat) : Option Bytes := do
  let node ← (store.dictionary id).toOption
  (← node.find? "Type").name?

/-- The pages below some nodes of the tree and then below the nodes that are left on the levels
above, in order. The budget bounds how many nodes are looked at, so that cycles end. -/
def pagesBelow (store : Store) (budget : Nat) (kids : List Object) (levels : List (List Object)) :
    List Nat :=
  match kids with
  | [] =>
    match levels with
    | [] => []
    | level :: above => store.pagesBelow budget level above
  | kid :: rest =>
    match budget with
    | 0 => []
    | budget + 1 =>
      match kid with
      | .reference id =>
        match store.nodeType? id with
        | none => store.pagesBelow budget rest levels
        | some type =>
          if type = Text.Utf8.encode "Page" then id :: store.pagesBelow budget rest levels
          else if type = Text.Utf8.encode "Pages" ∧ levels.length < maxOpenLevels then
            let above := if rest.isEmpty then levels else rest :: levels
            store.pagesBelow budget ((store.kids? id).getD []) above
          else store.pagesBelow budget rest levels
      | _ => store.pagesBelow budget rest levels
termination_by (budget, levels.length)

/-- The children of the root of the page tree. The catalog and the root have to be referred to. -/
def topKids? (store : Store) : Option (List Object) := do
  let catalog ← (store.dictionary (← (← store.trailer.find? "Root").reference?)).toOption
  store.kids? (← (← catalog.find? "Pages").reference?)

/-- The pages of the document in order, by their object numbers. A page may come more than once. -/
def pages (store : Store) : List Nat :=
  store.pagesBelow store.objects.size (store.topKids?.getD []) []

/-- The most nodes that are searched for an attribute, from the page up. -/
def maxTreeLevels : Nat := 64

/-- An attribute of a node, or of the nearest node above it that has it, within some levels. -/
def inheritedFrom (store : Store) (key : String) (page : Nat) :
    (levels : Nat) → (node : Nat) → Except ReadFault (Option Object)
  | 0, _ => .error (.structural (.treeTooDeep page maxTreeLevels))
  | levels + 1, node =>
    match store.dictionary node with
    | .error fault => .error (.object fault)
    | .ok entries =>
      match entries.find? key with
      | some value => .ok (some (store.resolve value))
      | none =>
        match entries.find? "Parent" with
        | some (.reference parent) => store.inheritedFrom key page levels parent
        | _ => .ok none

/-- An attribute of a page, its own or inherited. -/
def inherited (store : Store) (page : Nat) (key : String) : Except ReadFault (Option Object) :=
  store.inheritedFrom key page maxTreeLevels page

/-- The resources of a page; a page without any has none. -/
def pageResources (store : Store) (page : Nat) : Except ReadFault Dictionary :=
  match store.inherited page "Resources" with
  | .error fault => .error fault
  | .ok none => .ok []
  | .ok (some (.dictionary entries)) => .ok entries
  | .ok (some _) => .error (.structural .resourcesNotDictionary)

end Store

end PlacedText
