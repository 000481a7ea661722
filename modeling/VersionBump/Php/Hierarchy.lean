import VersionBump.Php.Declaration

/-!
# Class hierarchies

The entities of one snapshot and the inherits, implements and uses relations between them. An entity
is identified by the key of its name. Names that are referenced but never declared are entities too,
of the kind that the reference implies.

Queries walk the relations depth first, the newest relation of an entity first, and never enter an
entity twice. The cycle policy decides what happens where a walk meets its own path.

* `Hierarchy.build` collects the hierarchy of a list of declarations.
* `Hierarchy.hasApiAncestor` and `Hierarchy.hasApiDescendant` look for a published entity.
* `Hierarchy.inheritsFrom` follows the inherits relation alone.
-/

namespace VersionBump.Php

/-- What a walk does where it meets its own path. -/
inductive CyclePolicy where
  | ignore
  | error
  deriving DecidableEq, Repr, Inhabited

namespace CyclePolicy

/-- The keyword of a policy. -/
def name : CyclePolicy → String
  | ignore => "ignore"
  | error => "error"

/-- A policy is read from its keyword in any case. -/
def parse? (s : String) : Option CyclePolicy :=
  match Text.toLower s with
  | "ignore" => some ignore
  | "error" => some error
  | _ => none

/-- The complaint about a text that names no policy. -/
def unknownMessage (s : String) : String := "Unknown cycle policy: " ++ s

end CyclePolicy

/-- A class, interface or trait of the hierarchy. -/
structure Entity where
  name : String
  kind : ClassKind
  isApi : Bool := false
  deriving DecidableEq, Repr, Inhabited

/-- How one entity depends on another. -/
inductive Relation where
  | inherits
  | implements
  | uses
  deriving DecidableEq, Repr, Inhabited

/-- The side of a relation that a walk goes to. -/
inductive Direction where
  | towardsSources
  | towardsUsers
  deriving DecidableEq, Repr, Inhabited

/-- A relation between two entities, given by their keys. -/
structure Edge where
  user : String
  relation : Relation
  source : String
  deriving DecidableEq, Repr

/-- The entity that an edge leads to from `key`, if it touches `key` on the other side. -/
def Edge.next? (direction : Direction) (key : String) (e : Edge) : Option String :=
  match direction with
  | .towardsSources => if e.user = key then some e.source else none
  | .towardsUsers => if e.source = key then some e.user else none

/-- A walk that met its own path at an entity. -/
structure Cycle where
  entity : String
  deriving DecidableEq, Repr, Inhabited

/-- The complaint about a cycle. -/
def Cycle.message (c : Cycle) : String := "Inheritance cycle through " ++ c.entity

/-- The hierarchy of one snapshot. The edges are listed from the newest to the oldest. -/
structure Hierarchy where
  entities : KeyMap String Entity := ∅
  edges : List Edge := []
  policy : CyclePolicy := .ignore
  deriving DecidableEq

namespace Hierarchy

instance : Inhabited Hierarchy := ⟨{}⟩

/-- The hierarchy without entities. -/
def empty (policy : CyclePolicy) : Hierarchy := { policy }

/-- The number of entities. -/
def size (h : Hierarchy) : Nat := h.entities.size

/-- The key of the entity that a name denotes. -/
def idOf? (h : Hierarchy) (name : String) : Option String :=
  let key := Name.key name
  if h.entities.contains key then some key else none

/-- The entity that a name denotes. -/
def entity? (h : Hierarchy) (name : String) : Option Entity := h.entities.find? (Name.key name)

/-- The hierarchy with the entity, which replaces one of the same key and keeps its relations. -/
def addEntity (h : Hierarchy) (e : Entity) : Hierarchy :=
  { h with entities := h.entities.insert (Name.key e.name) e }

/-- The key of the entity that a name denotes and the hierarchy that has it. A name that denotes
none gets a new unpublished entity of the given kind. -/
def findOrCreate (h : Hierarchy) (name : String) (kind : ClassKind) : String × Hierarchy :=
  match h.idOf? name with
  | some id => (id, h)
  | none =>
    let e : Entity := { name := Name.normalize name, kind }
    -- A normal form may have a normal form of its own; the entity is known by the key of the first.
    (Name.key e.name, h.addEntity e)

/-- The hierarchy with the publication of an entity set. -/
def setApi (h : Hierarchy) (id : String) (isApi : Bool) : Hierarchy :=
  match h.entities.find? id with
  | some e => { h with entities := h.entities.insert id { e with isApi } }
  | none => h

/-- The hierarchy with the edge. An edge is stored once. -/
def relate (h : Hierarchy) (e : Edge) : Hierarchy :=
  if e ∈ h.edges then h else { h with edges := e :: h.edges }

/-- The hierarchy with the relation from `id` to a named entity, which is created if need be. -/
def refer (h : Hierarchy) (id : String) (relation : Relation) (kind : ClassKind) (name : String) :
    Hierarchy :=
  let (source, h) := h.findOrCreate name kind
  h.relate ⟨id, relation, source⟩

/-- The kind of the parents of a declaration. -/
def parentKind : ClassKind → ClassKind
  | .interfaceKind => .interfaceKind
  | _ => .classKind

/-- The hierarchy with a declaration and all that it refers to. -/
def declare (h : Hierarchy) (d : ClassLike) : Hierarchy :=
  let (id, h) := h.findOrCreate d.name d.kind
  -- The last declaration of a name decides whether it is published.
  let h := h.setApi id d.isApi
  let h := d.parents.foldl (fun h n => h.refer id .inherits (parentKind d.kind) n) h
  let h := d.interfaces.foldl (fun h n => h.refer id .implements .interfaceKind n) h
  d.traits.foldl (fun h n => h.refer id .uses .traitKind n) h

/-- The hierarchy of a list of declarations. -/
def build (declarations : List ClassLike) (policy : CyclePolicy) : Hierarchy :=
  declarations.foldl declare (empty policy)

/-- The keys next to `key` through the allowed relations, the newest relation first. -/
def neighbours (h : Hierarchy) (allowed : List Relation) (direction : Direction) (key : String) :
    List String :=
  (h.edges.filter (·.relation ∈ allowed)).filterMap (·.next? direction key)

/-- The entities related to `key`, in the order of their names. -/
def related (h : Hierarchy) (relation : Relation) (direction : Direction) (key : String) :
    List Entity :=
  ((h.neighbours [relation] direction key).filterMap h.entities.find?).mergeSort
    fun a b => compare a.name b.name != .gt

/-- Tries candidates one after the other, handing on a state, until one is a hit. -/
def firstHit {σ κ ε : Type} (attempt : σ → κ → Except ε (Bool × σ)) :
    List κ → σ → Except ε (Bool × σ)
  | [], s => .ok (false, s)
  | x :: xs, s => do
    let (hit, s) ← attempt s x
    if hit then .ok (true, s) else firstHit attempt xs s

/-- A search through the hierarchy. -/
structure Search where
  allowed : List Relation
  direction : Direction
  goal : Entity → Bool

/-- What a search makes of the entity under `key`: the entity found there, if there is one. -/
def Search.hits (q : Search) (h : Hierarchy) (key : String) : Bool :=
  (h.entities.find? key).any q.goal

/-- Walks on from the last entity of `path`, which lists the walked entities backwards. The answer
tells whether the goal was met and which entities have been visited. Each step down the path visits
an entity for the first time, so the number of entities bounds the depth. -/
def walk (h : Hierarchy) (q : Search) : Nat → List String → List String →
    Except Cycle (Bool × List String)
  | 0, _, visited => .ok (false, visited)
  | depth + 1, path, visited =>
    let candidates := (path.head?.map (h.neighbours q.allowed q.direction)).getD []
    firstHit (fun visited next =>
      if next ∈ path then
        -- The path is looked at first, for all that lies on it has been visited too.
        match h.policy with
        | .ignore => .ok (false, visited)
        | .error => .error ⟨((h.entities.find? next).map (·.name)).getD next⟩
      -- Met on another path, where everything behind it has been searched already.
      else if next ∈ visited then .ok (false, visited)
      else if q.hits h next then .ok (true, next :: visited)
      else h.walk q depth (next :: path) (next :: visited)) candidates visited

/-- Whether a search that starts at `key` meets its goal. -/
def reaches (h : Hierarchy) (q : Search) (key : String) : Except Cycle Bool :=
  (h.walk q (h.size + 1) [key] [key]).map (·.1)

/-- All relations. -/
def allRelations : List Relation := [.inherits, .implements, .uses]

/-- Whether the entity under `key` depends, directly or not, on a published one. -/
def hasApiAncestor (h : Hierarchy) (key : String) : Except Cycle Bool :=
  h.reaches ⟨allRelations, .towardsSources, (·.isApi)⟩ key

/-- Whether a published entity depends, directly or not, on the one under `key`. -/
def hasApiDescendant (h : Hierarchy) (key : String) : Except Cycle Bool :=
  h.reaches ⟨allRelations, .towardsUsers, (·.isApi)⟩ key

/-- Whether `child` is `ancestor` or extends it, directly or not. Unknown names inherit nothing. -/
def inheritsFrom (h : Hierarchy) (child ancestor : String) : Except Cycle Bool :=
  match h.idOf? child, h.idOf? ancestor with
  | some child, some ancestor =>
    -- A search never hits its own start, so this case is decided here.
    if child = ancestor then .ok true
    -- An entity is the ancestor if its name denotes the ancestor.
    else h.reaches ⟨[.inherits], .towardsSources, fun e => h.idOf? e.name == some ancestor⟩ child
  | _, _ => .ok false

end Hierarchy

end VersionBump.Php
