/-
**Workspaces.**

A workspace binds an identifier to a directory.  The daemon lists them in an order that matters:
the first one bound to a directory is the one that counts, and directories are compared as texts.

Main definitions:

* `WorkspaceWatch.Workspace`: a workspace as the daemon lists it;
* `WorkspaceWatch.WorkspaceCreate`: a workspace to be created;
* `WorkspaceWatch.findByDirectory?`: the first workspace bound to a directory.

Main results:

* `WorkspaceWatch.findByDirectory?_eq_some_iff`: what is found is bound to the directory, and
  nothing before it is.
-/

import WorkspaceWatch.Model.Sheet

set_option autoImplicit false

namespace WorkspaceWatch

/-- A workspace as the daemon lists it. -/
structure Workspace where
  /-- The identifier. -/
  id : String
  /-- The name. -/
  name : Option String
  /-- The directory it is bound to; a workspace without one matches no project. -/
  directory : Option String
  /-- When it was created, as the daemon writes it. -/
  created : Option String
  /-- When it was changed last, as the daemon writes it. -/
  updated : Option String
deriving DecidableEq, Repr

namespace Workspace

/-- The workspace of a row. -/
def ofRow : Row Sheet.workspace.fields → Workspace
  | .cons id (.cons name (.cons directory (.cons created (.cons updated .nil)))) =>
    ⟨id.value, name.value, directory.value, created.value, updated.value⟩

/-- The workspace of an entry. -/
def ofEntry (e : Entry .workspace) : Workspace := ofRow e.row

/-- The row of a workspace, with every field given. -/
def toRow (w : Workspace) : Row Sheet.workspace.fields :=
  .cons ⟨w.id, true⟩ (.cons ⟨w.name, true⟩ (.cons ⟨w.directory, true⟩
    (.cons ⟨w.created, true⟩ (.cons ⟨w.updated, true⟩ .nil))))

@[simp] theorem ofRow_toRow (w : Workspace) : ofRow w.toRow = w := rfl

/-- The fields of a workspace under their own names. -/
def toJson (w : Workspace) : Json := .object (w.toRow.dump {})

end Workspace

/-- A workspace to be created. -/
structure WorkspaceCreate where
  /-- The name. -/
  name : String
  /-- The directory it is to be bound to. -/
  directory : String
deriving DecidableEq, Repr

namespace WorkspaceCreate

/-- The creation of a row. -/
def ofRow : Row Sheet.workspaceCreate.fields → WorkspaceCreate
  | .cons name (.cons directory .nil) => ⟨name.value, directory.value⟩

/-- The row of a creation, with every field given. -/
def toRow (w : WorkspaceCreate) : Row Sheet.workspaceCreate.fields :=
  .cons ⟨w.name, true⟩ (.cons ⟨w.directory, true⟩ .nil)

@[simp] theorem ofRow_toRow (w : WorkspaceCreate) : ofRow w.toRow = w := rfl

/-- The object sent to the daemon. -/
def body (w : WorkspaceCreate) : Json := .object (w.toRow.dump { wireNames := true })

end WorkspaceCreate

/-- The first workspace bound to a directory; no directory is bound to none. -/
def findByDirectory? (ws : List Workspace) (directory : Option String) : Option Workspace :=
  match directory with
  | none => none
  | some d => ws.find? (·.directory == some d)

@[simp] theorem findByDirectory?_none (ws : List Workspace) : findByDirectory? ws none = none := rfl

/-- What is found is bound to the directory, and nothing before it is. -/
theorem findByDirectory?_eq_some_iff (ws : List Workspace) (d : String) (w : Workspace) :
    findByDirectory? ws (some d) = some w ↔
      w.directory = some d ∧ ∃ before after, ws = before ++ w :: after ∧
        ∀ v ∈ before, v.directory ≠ some d := by
  simp [findByDirectory?, List.find?_eq_some_iff_append]

end WorkspaceWatch
