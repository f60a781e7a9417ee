/-!
# Bus

Messages by topic.  A topic keeps its latest messages; a reader takes them one
by one from where it began.  A reader that fell behind is told once how many
messages it missed and goes on with the oldest kept one.
-/

set_option autoImplicit false

namespace FleetMonitor

def Bus.capacity : Nat := 256

/-- The messages of a topic: how many there were, and the latest of them, oldest
first. -/
structure Topic where
  sent : Nat
  kept : List String
deriving Repr, Inhabited

namespace Topic

def empty : Topic :=
  ⟨0, []⟩

def publish (topic : Topic) (message : String) : Topic :=
  let kept := topic.kept ++ [message]
  ⟨topic.sent + 1, kept.drop (kept.length - Bus.capacity)⟩

/-- The number of the oldest kept message. -/
def oldest (topic : Topic) : Nat :=
  topic.sent - topic.kept.length

end Topic

inductive Received where
  | message (text : String)
  | lagged (missed : Nat)
  | nothing
deriving DecidableEq, Repr

/-- A reader of a topic: the number of the message that it takes next. -/
structure Reader where
  topic : String
  next : Nat
deriving DecidableEq, Repr, Inhabited

structure Bus where
  topics : List (String × Topic)
deriving Repr, Inhabited

namespace Bus

def empty : Bus :=
  ⟨[]⟩

def topic (bus : Bus) (name : String) : Topic :=
  (bus.topics.lookup name).getD .empty

def publish (bus : Bus) (name message : String) : Bus :=
  ⟨(name, (bus.topic name).publish message) ::
    bus.topics.filter fun entry => entry.1 != name⟩

def subscribe (bus : Bus) (name : String) : Reader :=
  ⟨name, (bus.topic name).sent⟩

def receive (bus : Bus) (reader : Reader) : Received × Reader :=
  let topic := bus.topic reader.topic
  if reader.next < topic.oldest then
    (.lagged (topic.oldest - reader.next), { reader with next := topic.oldest })
  else
    match topic.kept[reader.next - topic.oldest]? with
    | some text => (.message text, { reader with next := reader.next + 1 })
    | none => (.nothing, reader)

/-- Takes up to a number of messages.  The flag says whether there is no further
one. -/
def drain (bus : Bus) : Nat → Reader → List Received × Bool × Reader
  | 0, reader => ([], false, reader)
  | n + 1, reader =>
      match bus.receive reader with
      | (.nothing, reader) => ([], true, reader)
      | (received, reader) =>
          let (more, ended, reader) := drain bus n reader
          (received :: more, ended, reader)

end Bus

end FleetMonitor
