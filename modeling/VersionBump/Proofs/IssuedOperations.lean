import VersionBump.Findings
import VersionBump.Proofs.SeverityCodes
import VersionBump.Severity.Table

/-!
# Issued operations

Every operation that a comparison finds is issued by the severity table: its kind is listed with its
context, and its code, level and reason are those of the rule. Findings keep what enters or leaves
the published surface apart from all other changes.

* `Severity.Table.Issued` is the property of one operation, `Severity.Table.Covers` that of a list
  and `Findings.IssuedBy` that of findings.
* `Severity.Table.issued_operation` and `Severity.Table.issued_valueChange` are the two ways to issue
  an operation.
-/

namespace VersionBump

/-- Whether a change concerns what is published, and nothing else. -/
def PhpChange.isMembership : PhpChange → Bool
  | .membershipAdded _ => true
  | .membershipRemoved _ => true
  | _ => false

/-- Whether a change concerns what is published, and nothing else. -/
def Change.isMembership : Change → Bool
  | .php change => change.isMembership
  | _ => false

namespace Severity.Table

/-- An operation as the table issues it, about what is published or about something else. -/
structure Issued (t : Table) (membership : Bool) (op : Operation) : Prop where
  listed : (op.context, op.kind) ∈ kinds
  code_eq : op.code = (t.rule op.context op.kind).code
  level_eq : op.level = (t.rule op.context op.kind).level
  reason_eq : op.reason = (t.rule op.context op.kind).reason ∨
    ∃ before after, op.reason = valueReason (t.rule op.context op.kind).reason before after
  kind_eq : op.kind.isMembership = membership

/-- Replacing levels leaves codes alone. -/
theorem rule_code (t : Table) (context : Context) (kind : Change) :
    (t.rule context kind).code = (Severity.rule context kind).code := by
  unfold rule
  dsimp only
  split <;> rfl

/-- All operations of a list are issued. -/
def Covers (t : Table) (membership : Bool) (ops : List Operation) : Prop :=
  ∀ op ∈ ops, t.Issued membership op

variable {t : Table} {m : Bool}

theorem covers_nil : t.Covers m [] := fun _ h => nomatch h

theorem covers_cons {op : Operation} {ops : List Operation} :
    t.Covers m (op :: ops) ↔ t.Issued m op ∧ t.Covers m ops := List.forall_mem_cons

/-- A kind that arises in a context is issued there. -/
theorem issued_operation {context : Context} {kind : Change} (h : Arises context kind)
    (hm : kind.isMembership = m) (target : String) (location : Path) :
    t.Issued m (t.operation context kind target location) :=
  ⟨mem_kinds_iff.mpr h, rfl, rfl, .inl rfl, hm⟩

/-- A kind that arises in a context is issued there. -/
theorem issued_valueChange {context : Context} {kind : Change} (h : Arises context kind)
    (hm : kind.isMembership = m) (target : String) (location : Path) (before after : String) :
    t.Issued m (t.valueChange context kind target location before after) :=
  ⟨mem_kinds_iff.mpr h, rfl, rfl, .inr ⟨before, after, rfl⟩, hm⟩

end Severity.Table

/-! ## Findings -/

/-- Findings whose operations are all issued, those about what is published on their own. -/
structure Findings.IssuedBy (t : Severity.Table) (f : Findings) : Prop where
  changes : t.Covers false f.changes
  membership : t.Covers true f.membership

end VersionBump
