import VersionBump.Di.VirtualType
import VersionBump.KeyDiff
import VersionBump.Registry
import VersionBump.Severity.Table

/-!
# Differences of virtual types

Virtual types are compared by name. Adding one to a scope other than the global one matters less,
and so does making one global.
-/

namespace VersionBump.Di

/-- The operation for a change of a virtual type. -/
def op (t : Severity.Table) (kind : DiChange) (target : String) (location : Path) : Operation :=
  t.operation .di (.di kind) target location

/-- The operation for a change of a value of a virtual type. -/
def valueOp (t : Severity.Table) (kind : DiChange) (target : String) (location : Path)
    (before after : String) : Operation :=
  t.valueChange .di (.di kind) target location before after

/-- The change that a new virtual type is. -/
def addedChange (v : VirtualType) : DiChange :=
  if v.isGlobal then .virtualTypeAdded else .virtualTypeAddedInScope

/-- The change of scope that leads to `after`. -/
def scopeChange (after : VirtualType) : DiChange :=
  if after.isGlobal then .virtualTypeScopeChangedToGlobal else .virtualTypeScopeChanged

/-- The differences of two virtual types of one name. -/
def compareTypes (t : Severity.Table) (name : String) (location : Path)
    (before after : VirtualType) : List Operation :=
  (if before.scope = after.scope then []
    else [valueOp t (scopeChange after) name location before.scope after.scope]) ++
  (if before.type = after.type then []
    else [valueOp t .virtualTypeTypeChanged name location before.type after.type]) ++
  (if before.shared = after.shared then [] else [op t .virtualTypeSharedChanged name location])

/-- The differences of the virtual types of two registries. -/
def differences (t : Severity.Table) (before after : Registry VirtualType) : List Operation :=
  (KeyDiff.between (before.inContext .di) (after.inContext .di)).collect
    (fun name v => [op t (addedChange v.value) name v.location])
    (fun name v => [op t .virtualTypeRemoved name v.location])
    (fun name old new => compareTypes t name new.location old.value new.value)

end VersionBump.Di
