import LeaseQueue.System

/-!
The named queues of a process. Looking a name up and registering it when it is absent are two steps,
and whoever registers first decides which queue a name stands for.
-/

namespace LeaseQueue

structure Registry where
  configuration : Configuration := {}
  entries : List (String × Nat) := []
deriving DecidableEq

namespace Registry

def find? (registry : Registry) (name : String) : Option Nat :=
  (registry.entries.find? fun entry => entry.1 == name).map Prod.snd

/-- A new queue with the settings in force for its name, not registered. An entry that requires a
connection has to list one. -/
def build (registry : Registry) (name : String) : Except Fault Queue :=
  let queue := Queue.ofSettings name (registry.configuration.settingsFor name)
  match registry.configuration.entry? name with
  | some entry =>
    if entry.requireConnection then (queue.descriptor.resolve "" entry.connections).map fun _ => queue
    else .ok queue
  | none => .ok queue

def insertIfAbsent (registry : Registry) (name : String) (index : Nat) : Nat × Registry :=
  match registry.find? name with
  | some existing => (existing, registry)
  | none => (index, { registry with entries := registry.entries ++ [(name, index)] })

def remove (registry : Registry) (name : String) : Registry :=
  { registry with entries := registry.entries.filter fun entry => entry.1 != name }

def count (registry : Registry) : Nat := registry.entries.length

def names (registry : Registry) : List String :=
  (registry.entries.map Prod.fst).mergeSort fun first second => first ≤ second

def create (registry : Registry) (system : System) (name : String) : Except Fault (Nat × System) :=
  (registry.build name).map system.addQueue

def getOrCreate (registry : Registry) (system : System) (name : String) :
    Except Fault (Nat × Registry × System) :=
  match registry.find? name with
  | some existing => .ok (existing, registry, system)
  | none =>
    (registry.create system name).map fun (index, system) =>
      let (index, registry) := registry.insertIfAbsent name index
      (index, registry, system)

def createAll (registry : Registry) (system : System) :
    List Entry → Option Fault × Registry × System
  | [] => (none, registry, system)
  | entry :: rest =>
    match registry.getOrCreate system entry.name with
    | .ok (_, registry, system) => createAll registry system rest
    | .error fault => (some fault, registry, system)

def createConfigured (registry : Registry) (system : System) : Option Fault × Registry × System :=
  registry.createAll system registry.configuration.entries

def mapQueues (registry : Registry) (system : System) (operation : Queue → Queue) : System :=
  registry.entries.foldl (fun system (_, index) =>
    match system.queue? index with
    | some queue => system.setQueue index (operation queue)
    | none => system) system

def openAll (registry : Registry) (system : System) : System := registry.mapQueues system Queue.openUp

def closeAll (registry : Registry) (system : System) : System := registry.mapQueues system Queue.close

end Registry

end LeaseQueue
