import LeaseQueue.Json.Shape
import LeaseQueue.Registry

/-!
Scripts of operations on queues, with handles for queues, slots for messages and names for
listeners, on a clock that moves only in steps that wait. `Scenario.perform` answers one step with
what a client sees: the result, the clock, what listeners did, and the state of the queue.
-/

namespace LeaseQueue

inductive RegistryCall where
  | newQueue (name : String) (settings : Settings)
  | create (name : String)
  | getOrCreate (name : String)
  | get (name : String)
  | remove (name : String)
  | createConfigured
  | openAll
  | closeAll
  | inspect

/-- An operation on one queue. A payload is absent when its value has no JSON text. -/
inductive QueueCall where
  | openUp
  | openWith (connections : List Connection) (credential : Option Credential)
  | malformed
  | close
  | clear
  | capabilities
  | report
  | inspect
  | send (correlationId kind : String) (payload : Option (List UInt8))
  | message (correlationId kind : String) (payload : Option (List UInt8)) (slot : String)
  | peek (slot : String)
  | peekBatch (count : Nat)
  | receive (timeout : Duration) (slot : String)
  | spawnReceive (timeout : Duration) (slot : String)
  | joinReceives
  | complete (slot : String)
  | abandon (slot : String)
  | deadLetter (slot : String)
  | renew (slot : String) (timeout : Duration)
  | resend (slot : String)
  | copy (slot target : String)
  | look (slot : String)
  | decode (slot : String) (shape : Json.Shape)
  | sleep (span : Duration)
  | advance (span : Duration)
  | beginListen (correlationId listener : String) (plan : Plan)
  | endListen
  | isFinished (listener : String)
  | joinListen (listener : String) (limit : Duration)
  | listen (correlationId : String) (plan : Plan) (limit : Duration)

/-- A step names the handle it sets or acts on. A queue step lets the background run before it is
over, unless it is told not to. -/
inductive Step where
  | registry (call : RegistryCall) (handle : String)
  | queue (call : QueueCall) (handle : String) (settle : Bool)

/-- A message as a client sees it. `ordinal` counts the different messages seen before it. -/
structure Sighting where
  ordinal : Nat
  message : Message

inductive Happening where
  | given (time : Instant) (sighting : Sighting)
  | ended (time : Instant) (succeeded locked : Bool)

inductive Answer where
  | done
  | nothing
  | noMessage
  | noListener
  | finished
  | limitReached
  | malformed
  | fault (fault : Fault)
  | flag (value : Bool)
  | text (text : String)
  | capabilities (offered : Capabilities)
  | inspection (shown inspected name : String)
  | value (value : Json.Value)
  | message (sighting : Sighting)
  | messages (sightings : List Sighting)
  | received (got : List Sighting) (timedOut : Nat)
  | handle (name : String) (settings : Settings) (sameAs : List String)

structure RegistryView where
  count : Nat
  queues : List (String × Bool)

/-- What a step shows. A step on an unknown handle shows nothing but the clock. -/
inductive Report where
  | unknownHandle (clock : Instant)
  | known (answer : Answer) (clock : Instant) (happenings : List Happening) (queue : Option Queue)
    (registry : Option RegistryView)

structure Scenario where
  system : System := {}
  registry : Registry := {}
  handles : List (String × Nat) := []
  slots : List (String × Message) := []
  listeners : List (String × Nat) := []
  receptions : List (Nat × String) := []
  sighted : List MessageId := []
  happenings : List Happening := []

def assign {α : Type} (name : String) (value : α) (entries : List (String × α)) : List (String × α) :=
  (name, value) :: entries.filter fun entry => entry.1 != name

def assigned? {α : Type} (name : String) (entries : List (String × α)) : Option α :=
  (entries.find? fun entry => entry.1 == name).map Prod.snd

abbrev Script := StateM Scenario

namespace Script

def system : Script System := do return (← get).system

def setSystem (system : System) : Script Unit := modify fun scenario => { scenario with system }

def modifySystem (change : System → System) : Script Unit := do setSystem (change (← system))

def ordinal (id : MessageId) : Script Nat := do
  let scenario ← get
  match scenario.sighted.findIdx? (· == id) with
  | some found => return found
  | none =>
    set { scenario with sighted := scenario.sighted ++ [id] }
    return scenario.sighted.length

def happening (event : Event) : Script Happening := do
  match event.notice with
  | .given message => return .given event.time ⟨← ordinal message.id, message⟩
  | .ended succeeded locked => return .ended event.time succeeded locked

def watch : Script Unit := do
  let events := (← system).journal
  modifySystem fun system => { system with journal := [] }
  let happenings ← events.mapM happening
  modify fun scenario => { scenario with happenings := scenario.happenings ++ happenings }

def sight (message : Message) : Script Sighting := do
  watch
  return ⟨← ordinal message.id, message⟩

def answerMessage (message : Message) : Script Answer := do return .message (← sight message)

def slot? (name : String) : Script (Option Message) := do return assigned? name (← get).slots

def setSlot (name : String) (message : Message) : Script Unit :=
  modify fun scenario => { scenario with slots := assign name message scenario.slots }

def keep (slot : String) (message : Message) : Script Answer := do
  setSlot slot message
  answerMessage message

def queue (index : Nat) : Script Queue := do return (← system).queue index

def setQueue (index : Nat) (queue : Queue) : Script Unit :=
  modifySystem fun system => system.setQueue index queue

def modifyQueue (index : Nat) (change : Queue → Queue) : Script Unit :=
  modifySystem fun system => system.modifyQueue index change

def now : Script Instant := do return (← system).clock

def newMessage (correlationId kind : String) (payload : List UInt8) : Script Message := do
  let (message, system) := (← system).newMessage correlationId kind payload
  setSystem system
  return message

def await (done : System → Bool) (own : Option Nat) (limit : Instant) : Script Unit :=
  modifySystem fun system => system.runUntil done own limit

def onSlot (index : Nat) (slot : String) (change : Message → Queue → Instant → Message × Queue) :
    Script Answer := do
  match ← slot? slot with
  | none => return .noMessage
  | some message =>
    let (message, queue) := change message (← queue index) (← now)
    setQueue index queue
    keep slot message

def receive (index : Nat) (timeout : Duration) (slot : String) : Script Answer := do
  let (received, system) := (← system).receive index timeout
  setSystem system
  match received with
  | some message => keep slot message
  | none => return .nothing

def latestDeadline (system : System) (ids : List Nat) : Instant :=
  ids.foldl (fun latest id =>
    match system.reception? id with
    | some call => max latest call.deadline
    | none => latest) system.clock

def joinReceives : Script Answer := do
  let receptions := (← get).receptions
  let ids := receptions.map Prod.fst
  let done (system : System) : Bool := ids.all system.isFinished
  modifySystem (System.settleUntil done)
  await done none (latestDeadline (← system) ids)
  modifySystem (System.settleUntil done)
  let system ← system
  let results := receptions.map fun (id, slot) => (slot, (system.reception? id).bind Reception.message?)
  let got := results.filterMap fun (slot, message) => message.map fun found => (slot, found)
  for (slot, message) in got do setSlot slot message
  modify fun scenario =>
    { scenario with receptions := [], system := ids.foldl System.drop scenario.system }
  let inOrder := (got.map Prod.snd).mergeSort fun first second =>
    (first.token.map (·.number)).getD 0 ≤ (second.token.map (·.number)).getD 0
  return .received (← inOrder.mapM sight) (results.length - got.length)

def listen (index : Nat) (correlationId : String) (plan : Plan) (limit : Duration) : Script Answer := do
  modifyQueue index Queue.resume
  let (id, system) := (← system).spawnFirst index (.listen { correlationId, plan })
  setSystem system
  await (·.isFinished id) (some id) (system.clock + limit)
  let stage := ((← Script.system).listener? id).map Listener.stage
  modifySystem (·.drop id)
  match stage with
  | some (.finished (some fault)) => return .fault fault
  | some (.finished none) => return .done
  | _ => return .limitReached

def beginListen (index : Nat) (correlationId listener : String) (plan : Plan) : Script Answer := do
  let (id, system) := (← system).beginListen index correlationId plan
  setSystem system
  modify fun scenario => { scenario with listeners := assign listener id scenario.listeners }
  return .done

def joinListen (listener : String) (limit : Duration) : Script Answer := do
  match assigned? listener (← get).listeners with
  | none => return .noListener
  | some id =>
    await (·.isFinished id) none ((← now) + limit)
    if (← system).isFinished id then
      modify fun scenario =>
        { scenario with
          listeners := scenario.listeners.filter fun entry => entry.1 != listener
          system := scenario.system.drop id }
      return .finished
    else return .limitReached

def withPayload (correlationId kind : String) (payload : Option (List UInt8))
    (use : Message → Script Answer) : Script Answer := do
  match payload with
  | none => return .fault .unwritable
  | some bytes => use (← newMessage correlationId kind bytes)

def callQueue (index : Nat) : QueueCall → Script Answer
  | .openUp => do
    modifyQueue index Queue.openUp
    return .done
  | .openWith _ _ => do
    modifyQueue index Queue.openUp
    return .done
  | .malformed => return .malformed
  | .close => do
    modifyQueue index Queue.close
    return .done
  | .clear => do
    modifyQueue index Queue.clear
    return .done
  | .capabilities => do return .capabilities (← queue index).descriptor.capabilities
  | .report => do return .text (← queue index).report
  | .inspect => do
    let queue ← queue index
    return .inspection queue.descriptor.shown queue.inspected queue.name
  | .send correlationId kind payload =>
    withPayload correlationId kind payload fun message => do
      setQueue index ((← queue index).send message (← now))
      return .done
  | .message correlationId kind payload slot => withPayload correlationId kind payload (keep slot)
  | .peek slot => do
    match (← queue index).peek with
    | some message => keep slot message
    | none => return .nothing
  | .peekBatch count => do return .messages (← ((← queue index).peekBatch count).mapM sight)
  | .receive timeout slot => receive index timeout slot
  | .spawnReceive timeout slot => do
    let (id, system) := (← system).spawn index (.receive (Reception.later timeout))
    setSystem system
    modify fun scenario => { scenario with receptions := scenario.receptions ++ [(id, slot)] }
    return .done
  | .joinReceives => joinReceives
  | .complete slot => onSlot index slot fun message queue _ => queue.complete message
  | .abandon slot => onSlot index slot fun message queue now => queue.abandon message now
  | .deadLetter slot => onSlot index slot fun message queue _ => queue.deadLetter message
  | .renew slot timeout =>
    onSlot index slot fun message queue now => (message, queue.renew message timeout now)
  | .resend slot => onSlot index slot fun message queue now => (message, queue.send message now)
  | .copy slot target => do
    match ← slot? slot with
    | none => return .noMessage
    | some message =>
      setSlot target message
      answerMessage message
  | .look slot => onSlot index slot fun message queue _ => (message, queue)
  | .decode slot shape => do
    match ← slot? slot with
    | none => return .noMessage
    | some message =>
      match message.decode shape.read? with
      | .ok value => return .value value
      | .error fault => return .fault fault
  | .sleep span => do
    modifySystem fun system => system.sleep span
    return .done
  | .advance span => do
    modifySystem fun system => { system with clock := system.clock + span }
    return .done
  | .beginListen correlationId listener plan => beginListen index correlationId listener plan
  | .endListen => do
    modifyQueue index Queue.endListen
    return .done
  | .isFinished listener => do
    match assigned? listener (← get).listeners with
    | some id => return .flag ((← system).isFinished id)
    | none => return .nothing
  | .joinListen listener limit => joinListen listener limit
  | .listen correlationId plan limit => listen index correlationId plan limit

def hold (handle : String) (index : Nat) : Script Answer := do
  let queue ← queue index
  let same := (← get).handles.filter fun entry => entry.2 == index
  modify fun scenario => { scenario with handles := assign handle index scenario.handles }
  return .handle queue.name queue.settings
    ((same.map Prod.fst).mergeSort fun first second => first ≤ second)

def setRegistry (registry : Registry) (system : System) : Script Unit :=
  modify fun scenario => { scenario with registry, system }

def callRegistry (handle : String) : RegistryCall → Script Answer
  | .newQueue name settings => do
    let (index, system) := (← system).addQueue (Queue.ofSettings name settings)
    setSystem system
    hold handle index
  | .create name => do
    match (← get).registry.create (← system) name with
    | .error fault => return .fault fault
    | .ok (index, system) =>
      setSystem system
      hold handle index
  | .getOrCreate name => do
    match (← get).registry.getOrCreate (← system) name with
    | .error fault => return .fault fault
    | .ok (index, registry, system) =>
      setRegistry registry system
      hold handle index
  | .get name => do
    match (← get).registry.find? name with
    | some index => hold handle index
    | none => return .nothing
  | .remove name => do
    match (← get).registry.find? name with
    | some index =>
      modify fun scenario => { scenario with registry := scenario.registry.remove name }
      hold handle index
    | none => return .nothing
  | .createConfigured => do
    let (fault, registry, system) := (← get).registry.createConfigured (← system)
    setRegistry registry system
    return (fault.map Answer.fault).getD .done
  | .openAll => do
    setSystem ((← get).registry.openAll (← system))
    return .done
  | .closeAll => do
    setSystem ((← get).registry.closeAll (← system))
    return .done
  | .inspect => return .done

def viewRegistry : Script RegistryView := do
  let registry := (← get).registry
  let system ← system
  let isOpen (name : String) : Bool :=
    match (registry.find? name).bind system.queue? with
    | some queue => queue.isOpen
    | none => false
  return { count := registry.count, queues := registry.names.map fun name => (name, isOpen name) }

def takeHappenings : Script (List Happening) := do
  watch
  let happenings := (← get).happenings
  modify fun scenario => { scenario with happenings := [] }
  return happenings

def heldQueue (handle : String) : Script (Option Queue) := do
  match assigned? handle (← get).handles with
  | some index => return some (← queue index)
  | none => return none

def perform : Step → Script Report
  | .registry call handle => do
    let answer ← callRegistry handle call
    let happenings ← takeHappenings
    return .known answer (← now) happenings (← heldQueue handle) (some (← viewRegistry))
  | .queue call handle settle => do
    match assigned? handle (← get).handles with
    | none => return .unknownHandle (← now)
    | some index =>
      let answer ← callQueue index call
      if settle then modifySystem System.settle
      let happenings ← takeHappenings
      return .known answer (← now) happenings (some (← queue index)) none

end Script

def Scenario.fresh (configuration : Configuration) : Scenario := { registry := { configuration } }

def Scenario.play (scenario : Scenario) (steps : List Step) : List Report :=
  (StateT.run (steps.mapM Script.perform) scenario).1

end LeaseQueue
