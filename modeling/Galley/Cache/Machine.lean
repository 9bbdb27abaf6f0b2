import Galley.Cache.Backing

/-! The result cache as a transition system. Callers ask for the rendering of a fingerprint; the first to come
computes it, the others wait for its slot. A caller moves only in steps between which any other may move, so every
interleaving of callers is a sequence of these steps.

A slot is shared by identity: the map from fingerprints leads to it, and so does every caller that holds it, also
after the map has dropped it. The callers that hold a slot queue at it in order of arrival, and the first of them
is the one that computes. A computation that succeeds fills the slot for good. One that fails leaves the slot to the
next in the queue, and the last to fail takes it out of the map. A caller that is abandoned just leaves the queue. -/
namespace Galley

/-- The markup of a fingerprint. -/
structure Rendered where
  fingerprint : Fingerprint
  markup : String
  deriving DecidableEq

namespace Cache

/-- A place for one rendering. -/
structure Slot where
  document : Option Rendered
  /-- The callers that hold the slot, in order of arrival. -/
  queue : List Nat

/-- How far a caller has come. -/
inductive Stage (ε : Type) where
  /-- It holds a slot and waits for the document or for its turn. -/
  | waiting
  /-- It asks the backing. -/
  | loading
  /-- Its render function runs. -/
  | rendering
  /-- It hands the markup to the backing. -/
  | saving (markup : String)
  | done (result : Except ε Rendered)
  | abandoned

/-- A call for a fingerprint. `outcome` is what its render function gives if it runs; if it does not run, nobody
looks. -/
structure Caller (ε : Type) where
  fingerprint : Fingerprint
  outcome : Thunk (Except ε String)
  slot : Nat
  stage : Stage ε
  /-- The render function was run. -/
  ran : Bool

end Cache

open Cache

/-- A cache over a backing with states `σ`. -/
structure Cache (σ : Type) where
  /-- Which slot a fingerprint leads to; no fingerprint twice. -/
  entries : List (Fingerprint × Nat)
  /-- Every slot there ever was, by identity. -/
  slots : Array Slot
  store : σ

namespace Cache

/-- An empty cache on a store. -/
def start {σ : Type} (store : σ) : Cache σ := { entries := [], slots := #[], store }

/-- The document in a slot. -/
def documentIn {σ : Type} (c : Cache σ) (slot : Nat) : Option Rendered := (c.slots[slot]?).bind Slot.document

/-- The completed document of a fingerprint. -/
def get {σ : Type} (c : Cache σ) (f : Fingerprint) : Option Rendered :=
  (c.entries.lookup f).bind c.documentIn

/-- How many documents are complete. -/
def size {σ : Type} (c : Cache σ) : Nat := (c.entries.filter fun e => (c.documentIn e.2).isSome).length

/-- Changes a slot. -/
def modifySlot {σ : Type} (c : Cache σ) (slot : Nat) (change : Slot → Slot) : Cache σ :=
  { c with slots := c.slots.modify slot change }

/-- A caller lets go of a slot. -/
def leave {σ : Type} (c : Cache σ) (slot caller : Nat) : Cache σ :=
  c.modifySlot slot fun s => { s with queue := s.queue.filter (· != caller) }

/-- Takes a fingerprint out of the map if it leads to this slot and the slot is empty and held by nobody. -/
def discard {σ : Type} (c : Cache σ) (f : Fingerprint) (slot : Nat) : Cache σ :=
  let unused := match c.slots[slot]? with
    | some s => s.document.isNone && s.queue.isEmpty
    | none => false
  if c.entries.lookup f == some slot && unused then
    { c with entries := c.entries.filter fun e => e.1 != f }
  else c

end Cache

/-- A cache with its callers. -/
structure Machine (σ ε : Type) where
  cache : Cache σ
  callers : Array (Caller ε)

namespace Machine

variable {σ ε : Type}

/-- Changes a caller. -/
def modifyCaller (m : Machine σ ε) (i : Nat) (change : Caller ε → Caller ε) : Machine σ ε :=
  { m with callers := m.callers.modify i change }

def setStage (m : Machine σ ε) (i : Nat) (stage : Stage ε) : Machine σ ε :=
  m.modifyCaller i fun c => { c with stage }

/-- A new caller. A document that is there is the answer at once; else the caller queues at the slot of the
fingerprint, which is made if there is none. -/
def enter (m : Machine σ ε) (f : Fingerprint) (outcome : Thunk (Except ε String)) : Machine σ ε :=
  let i := m.callers.size
  match m.cache.entries.lookup f with
  | some slot =>
    match m.cache.documentIn slot with
    | some document =>
      let caller := { fingerprint := f, outcome, slot, stage := .done (.ok document), ran := false }
      { m with callers := m.callers.push caller }
    | none =>
      { cache := m.cache.modifySlot slot fun s => { s with queue := s.queue ++ [i] }
        callers := m.callers.push { fingerprint := f, outcome, slot, stage := .waiting, ran := false } }
  | none =>
    let slot := m.cache.slots.size
    { cache :=
        { m.cache with
          entries := m.cache.entries ++ [(f, slot)]
          slots := m.cache.slots.push { document := none, queue := [i] } }
      callers := m.callers.push { fingerprint := f, outcome, slot, stage := .waiting, ran := false } }

/-- A caller fills its slot and is done. -/
def complete (m : Machine σ ε) (i : Nat) (c : Caller ε) (markup : String) : Machine σ ε :=
  let document : Rendered := { fingerprint := c.fingerprint, markup }
  let cache := (m.cache.modifySlot c.slot fun s => { s with document := some document }).leave c.slot i
  { m with cache }.setStage i (.done (.ok document))

/-- A caller ends with an error. -/
def fail (m : Machine σ ε) (i : Nat) (c : Caller ε) (e : ε) : Machine σ ε :=
  { m with cache := (m.cache.leave c.slot i).discard c.fingerprint c.slot }.setStage i (.done (.error e))

/-- A waiting caller finds the document, or takes its turn, or goes on waiting. -/
def await (m : Machine σ ε) (i : Nat) (c : Caller ε) : Machine σ ε :=
  match m.cache.slots[c.slot]? with
  | none => m
  | some slot =>
    match slot.document with
    | some document => { m with cache := m.cache.leave c.slot i }.setStage i (.done (.ok document))
    | none => if slot.queue.head? == some i then m.setStage i .loading else m

/-- A caller asks the backing, and runs its render function if that knows nothing. -/
def consult (b : Backing σ) (m : Machine σ ε) (i : Nat) (c : Caller ε) : Machine σ ε :=
  match b.load c.fingerprint m.cache.store with
  | (some markup, store) => { m with cache := { m.cache with store } }.complete i c markup
  | (none, store) =>
    { m with cache := { m.cache with store } }.modifyCaller i fun c => { c with stage := .rendering, ran := true }

/-- The next step of a caller, if it has one. -/
def advance (b : Backing σ) (m : Machine σ ε) (i : Nat) : Machine σ ε :=
  match m.callers[i]? with
  | none => m
  | some c =>
    match c.stage with
    | .waiting => m.await i c
    | .loading => consult b m i c
    | .rendering =>
      match c.outcome.get with
      | .ok markup => m.setStage i (.saving markup)
      | .error e => m.fail i c e
    | .saving markup =>
      { m with cache := { m.cache with store := b.save c.fingerprint markup m.cache.store } }.complete i c markup
    | .done _ => m
    | .abandoned => m

/-- A caller gives up wherever it is. -/
def abandon (m : Machine σ ε) (i : Nat) : Machine σ ε :=
  match m.callers[i]? with
  | none => m
  | some c =>
    match c.stage with
    | .done _ => m
    | .abandoned => m
    | _ => { m with cache := m.cache.leave c.slot i }.setStage i .abandoned

/-- Each caller makes a step, in order of arrival. -/
def round (b : Backing σ) (m : Machine σ ε) : Machine σ ε :=
  (List.range m.callers.size).foldl (advance b) m

/-- So many rounds. -/
def rounds (b : Backing σ) : Nat → Machine σ ε → Machine σ ε
  | 0, m => m
  | n + 1, m => rounds b n (round b m)

end Machine

namespace Cache

variable {σ ε : Type}

/-- How a call ended, and whether its render function ran. -/
structure Answer (ε : Type) where
  /-- Absent only for a caller that did not end. -/
  result : Option (Except ε Rendered)
  ran : Bool

/-- How a caller ended. -/
def Caller.answer (c : Caller ε) : Answer ε :=
  { result := match c.stage with
      | .done result => some result
      | _ => none
    ran := c.ran }

/-- A call: a fingerprint, and what its render function gives. -/
abbrev Call (ε : Type) := Fingerprint × Thunk (Except ε String)

/-- Every call needs at most four steps of its own, and in each round someone makes one. -/
def roundsFor (calls : List (Call ε)) : Nat := 4 * calls.length

/-- Calls that start together, in order, and run side by side until all have ended. -/
def batch (b : Backing σ) (cache : Cache σ) (calls : List (Call ε)) : List (Answer ε) × Cache σ :=
  let entered := calls.foldl (fun m call => m.enter call.1 call.2) ({ cache, callers := #[] } : Machine σ ε)
  let settled := Machine.rounds b (roundsFor calls) entered
  (settled.callers.toList.map Caller.answer, settled.cache)

end Cache
end Galley
