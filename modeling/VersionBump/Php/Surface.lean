import VersionBump.Php.Declaration
import VersionBump.Registry

/-!
# Published surfaces

What a snapshot publishes: the class-likes that are marked as API or have a member that is, reduced
to their published members. Private members are never published.

* `ClassLike.surface?` is the published part of one class-like.
* `publishedSurface` is that of a registry.
-/

namespace VersionBump.Php

/-- Whether a member is visible to others at all. -/
def Visibility.isShared (v : Visibility) : Bool := v != .privateAccess

namespace ClassLike

/-- Whether a member of the class-like with this mark and visibility is published. -/
def publishes (c : ClassLike) (isApi : Bool) (v : Visibility) : Bool :=
  v.isShared && (isApi || c.isApi)

/-- The class-like with its published members only. -/
def publishedPart (c : ClassLike) : ClassLike :=
  { c with
    methods := c.methods.filter fun m => c.publishes m.isApi m.visibility
    properties := c.properties.filter fun p => c.publishes p.isApi p.visibility
    constants := c.constants.filter fun k => c.publishes k.isApi k.visibility }

/-- Whether the class-like has members. -/
def hasMembers (c : ClassLike) : Bool :=
  !c.methods.isEmpty || !c.properties.isEmpty || !c.constants.isEmpty

/-- The published part of a class-like, if any of it is published. -/
def surface? (c : ClassLike) : Option ClassLike :=
  if c.isApi || c.publishedPart.hasMembers then some c.publishedPart else none

end ClassLike

/-- The published part of a registry. -/
def publishedSurface (r : Registry ClassLike) : Registry ClassLike := r.filterMap (·.surface?)

end VersionBump.Php
