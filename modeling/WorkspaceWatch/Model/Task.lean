/-
**Tasks.**

A task is a unit of work inside a workspace.

Main definitions:

* `WorkspaceWatch.Task`: a task as the daemon lists it;
* `WorkspaceWatch.TaskRequest`: what a client asks a task to be.
-/

import WorkspaceWatch.Model.Sheet

set_option autoImplicit false

namespace WorkspaceWatch

/-- A task as the daemon lists it. -/
structure Task where
  /-- The identifier. -/
  id : String
  /-- The workspace it belongs to. -/
  workspaceId : String
  /-- How far it has come. -/
  status : TaskStatus
  /-- What is to be done. -/
  description : String
  /-- Who works on it. -/
  agentType : Option AgentType
  /-- The flow it goes through. -/
  flowType : Option String
  /-- When it was created, as the daemon writes it. -/
  createdAt : Option String
  /-- When it was changed last, as the daemon writes it. -/
  updatedAt : Option String
deriving DecidableEq, Repr

namespace Task

/-- The task of a row. -/
def ofRow : Row Sheet.task.fields → Task
  | .cons id (.cons workspaceId (.cons status (.cons description (.cons agentType (.cons flowType
      (.cons createdAt (.cons updatedAt .nil))))))) =>
    ⟨id.value, workspaceId.value, status.value, description.value, agentType.value, flowType.value,
      createdAt.value, updatedAt.value⟩

/-- The task of an entry. -/
def ofEntry (e : Entry .task) : Task := ofRow e.row

/-- The row of a task, with every field given. -/
def toRow (t : Task) : Row Sheet.task.fields :=
  .cons ⟨t.id, true⟩ (.cons ⟨t.workspaceId, true⟩ (.cons ⟨t.status, true⟩
    (.cons ⟨t.description, true⟩ (.cons ⟨t.agentType, true⟩ (.cons ⟨t.flowType, true⟩
      (.cons ⟨t.createdAt, true⟩ (.cons ⟨t.updatedAt, true⟩ .nil)))))))

@[simp] theorem ofRow_toRow (t : Task) : ofRow t.toRow = t := rfl

/-- The fields of a task under their own names. -/
def toJson (t : Task) : Json := .object (t.toRow.dump {})

end Task

/-- What a client asks a task to be. -/
structure TaskRequest where
  /-- What is to be done. -/
  description : String
  /-- How far it is to be. -/
  status : TaskStatus
  /-- Who is to work on it. -/
  agentType : AgentType
  /-- The flow it is to go through. -/
  flowType : String
deriving DecidableEq, Repr

namespace TaskRequest

/-- The request of a row. -/
def ofRow : Row Sheet.taskRequest.fields → TaskRequest
  | .cons description (.cons status (.cons agentType (.cons flowType .nil))) =>
    ⟨description.value, status.value, agentType.value, flowType.value⟩

/-- The request of an entry. -/
def ofEntry (e : Entry .taskRequest) : TaskRequest := ofRow e.row

/-- The row of a request, with every field given. -/
def toRow (t : TaskRequest) : Row Sheet.taskRequest.fields :=
  .cons ⟨t.description, true⟩ (.cons ⟨t.status, true⟩ (.cons ⟨t.agentType, true⟩
    (.cons ⟨t.flowType, true⟩ .nil)))

@[simp] theorem ofRow_toRow (t : TaskRequest) : ofRow t.toRow = t := rfl

/-- The object sent to the daemon. -/
def body (t : TaskRequest) : Json := .object (t.toRow.dump { wireNames := true })

end TaskRequest

end WorkspaceWatch
