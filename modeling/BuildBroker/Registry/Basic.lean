import BuildBroker.Registry.Build

/-!
# The Registry

Every build that the broker has taken on, in the order in which they were registered. A build is
never removed. Listing them goes from the newest to the oldest; builds of the same moment are listed
in reverse order of their registration.
-/

namespace BuildBroker

/-- The builds in the order of their registration. -/
structure Registry where
  builds : List Build

namespace Registry

/-- No builds. -/
def empty : Registry := ⟨[]⟩

instance : Inhabited Registry := ⟨empty⟩

/-- How many builds there are. -/
def size (r : Registry) : Nat :=
  r.builds.length

/-- The build of a name. -/
def find? (r : Registry) (id : BuildId) : Option Build :=
  r.builds.find? (·.id = id)

/-- The build of a name, or the cause why there is none. -/
def get (r : Registry) (id : BuildId) : Except RegistryError Build :=
  match r.find? id with
  | some b => .ok b
  | none => .error (.notFound id)

/-- Changes the build of a name. -/
def modify (r : Registry) (id : BuildId) (f : Build → Build) : Registry :=
  ⟨r.builds.map fun b => if b.id = id then f b else b⟩

/-- Registers a build under a new name. -/
def create (r : Registry) (id : BuildId) (now : Time.Instant) (s : Submission) :
    Except RegistryError (Registry × BuildRecord) :=
  match s.validate with
  | .error e => .error (.invalid e)
  | .ok () =>
    let record := BuildRecord.fresh id now s
    .ok (⟨r.builds.filter (·.id ≠ id) ++ [.fresh record]⟩, record)

/-- Changes the build of a name if the change is allowed. -/
def update (r : Registry) (id : BuildId) (f : Build → Except RegistryError Build) :
    Except RegistryError (Registry × BuildRecord) := do
  let b ← r.get id
  let b ← f b
  return (r.modify id fun _ => b, b.record)

/-- Whether a build is listed before another: it is newer, or as new and registered later. -/
def listedBefore (a b : Build × Nat) : Bool :=
  let x := a.1.record.createdAt.key
  let y := b.1.record.createdAt.key
  y < x || (x = y && b.2 ≤ a.2)

/-- The records of all builds, the newest first. -/
def list (r : Registry) : List BuildRecord :=
  ((r.builds.zipIdx.mergeSort listedBefore).map (·.1.record))

end Registry

end BuildBroker
