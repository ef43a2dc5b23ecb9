import Std.Data.HashMap
import SparqlExpr.Regex.ByteRange

/-! The room that state machines over bytes take. A machine is not built here, only measured: its
states are numbered, and the states of a set of characters are shared as the machine would share
them. -/
namespace SparqlExpr.Regex

/-- The number of states so far and the bytes that they take. -/
structure Machine where
  states : Nat := 0
  room : Nat := 0
deriving Repr

/-- The most bytes that a machine may take. -/
def maxRoom : Nat := 10 * 1024 * 1024

namespace Machine

/-- A state with one successor or none. -/
def addState (m : Machine) : Machine :=
  ⟨m.states + 1, m.room + 32⟩

/-- A state with a list of byte ranges, each with its successor. -/
def addRanges (count : Nat) (m : Machine) : Machine :=
  ⟨m.states + 1, m.room + 32 + 8 * count⟩

/-- One more branch of a state that branches. -/
def addBranch (m : Machine) : Machine :=
  ⟨m.states, m.room + 4⟩

def addBranches (count : Nat) (m : Machine) : Machine :=
  ⟨m.states, m.room + 4 * count⟩

/-- Whether the machine takes more room than it may. -/
def isFull (m : Machine) : Bool :=
  maxRoom < m.room

/-- Adds a part of a machine a number of times, until the machine is full. -/
def times (part : Machine → Machine) : Nat → Machine → Machine
  | 0, m => m
  | count + 1, m => if m.isFull then m else times part count (part m)

end Machine

/-- A table of states by their keys with a fixed number of slots. A new entry drives out an older
one from its slot. -/
structure SlotTable where
  capacity : Nat
  slots : Std.HashMap Nat (List Nat × Nat) := ∅

namespace SlotTable

/-- The slot of a key: the remainder of a product of its numbers in 64 bits. -/
def slot (t : SlotTable) (key : List Nat) : Nat :=
  let hash : UInt64 :=
    key.foldl (fun h n => (h ^^^ n.toUInt64) * 1099511628211) 14695981039346656037
  hash.toNat % t.capacity

/-- The state that is kept for a key. -/
def get? (t : SlotTable) (key : List Nat) : Option Nat :=
  match t.slots[t.slot key]? with
  | some (kept, state) => if kept = key then some state else none
  | none => none

def insert (t : SlotTable) (key : List Nat) (state : Nat) : SlotTable :=
  { t with slots := t.slots.insert (t.slot key) (key, state) }

end SlotTable

/-- A machine with the states that may be shared. -/
structure Sharing where
  machine : Machine
  table : SlotTable

namespace Sharing

/-- The state with the given byte ranges and successors, which is added if it is not kept. -/
def rangesState (ranges : List (ByteRange × Nat)) (s : Sharing) : Nat × Sharing :=
  let key := ranges.flatMap fun (r, successor) => [r.first, r.last, successor]
  match s.table.get? key with
  | some state => (state, s)
  | none =>
    let state := s.machine.states
    (state, ⟨s.machine.addRanges ranges.length, s.table.insert key state⟩)

/-- The state that leads to another one by one byte range, which is added if it is not kept. -/
def rangeState (successor : Nat) (r : ByteRange) (s : Sharing) : Nat × Sharing :=
  let key := [successor, r.first, r.last]
  match s.table.get? key with
  | some state => (state, s)
  | none =>
    let state := s.machine.states
    (state, ⟨s.machine.addState, s.table.insert key state⟩)

end Sharing

/-- A state that is not complete: its ranges with successors in reverse, and a last range whose
successor is yet to come. -/
structure OpenState where
  done : List (ByteRange × Nat) := []
  pending : Option ByteRange := none

namespace OpenState

/-- Gives the last range its successor. -/
def settle (successor : Nat) (o : OpenState) : OpenState :=
  match o.pending with
  | some r => ⟨(r, successor) :: o.done, none⟩
  | none => o

/-- Completes states that lead to each other, the last one to a given successor, and returns the
first of them. -/
def complete (successor : Nat) : List OpenState → Sharing → Nat × Sharing
  | [], s => (successor, s)
  | o :: deeper, s =>
    let (next, s) := complete successor deeper s
    s.rangesState (o.settle next).done.reverse

/-- Adds a sequence of byte ranges to open states. States beyond the common start are completed. -/
def insert (successor : Nat) : List ByteRange → List OpenState → Sharing → List OpenState × Sharing
  | r :: ranges, o :: deeper, s =>
    if o.pending = some r then
      let (deeper, s) := insert successor ranges deeper s
      (o :: deeper, s)
    else
      let (next, s) := complete successor deeper s
      ({ o.settle next with pending := some r } ::
        ranges.map fun r => { pending := some r }, s)
  | _, states, s => (states, s)

end OpenState

namespace Machine

/-- Adds the states of a set that is read forwards. Sequences come in order, so those with a common
start share its states; complete states are shared where they are alike. -/
def addForward (members : Unicode.CodeSet) (m : Machine) : Machine :=
  let target := m.states
  let start : List OpenState × Sharing := ([{}], ⟨m.addState, { capacity := 10000 }⟩)
  let (states, s) := (ByteRange.sequencesOf members).foldl
    (fun (states, s) ranges => OpenState.insert target ranges states s) start
  (OpenState.complete target states s).2.machine

/-- Adds the states of a set that is read backwards: one state branches into a path for each
sequence, and paths share their ends. -/
def addBackward (members : Unicode.CodeSet) (m : Machine) : Machine :=
  let target := m.states + 1
  let start : Sharing := ⟨m.addState.addState, { capacity := 1000 }⟩
  let s := (ByteRange.sequencesOf members).foldl
    (fun s ranges =>
      let (_, s) := ranges.foldl (fun (state, s) r => s.rangeState state r) (target, s)
      { s with machine := s.machine.addBranch })
    start
  s.machine

/-- Adds the states of a set. Ranges within ASCII need one state and its successor. -/
def addSet (backward : Bool) (members : Unicode.CodeSet) (m : Machine) : Machine :=
  if members.isAscii then m.addState.addRanges members.ranges.length
  else if backward then m.addBackward members
  else m.addForward members

/-- Splits words at those that are empty. -/
def splitAtEmpty : List (List UInt8) → List (List (List UInt8))
  | [] => [[]]
  | word :: rest =>
    match splitAtEmpty rest with
    | chunk :: chunks => if word.isEmpty then [] :: chunk :: chunks else (word :: chunk) :: chunks
    | [] => [[word]]

/-- Adds what follows the first byte of a word to the group of that byte. -/
def addToGroup (b : UInt8) (tail : List UInt8) :
    List (UInt8 × List (List UInt8)) → List (UInt8 × List (List UInt8))
  | [] => [(b, [tail])]
  | (b', tails) :: rest =>
    if b = b' then (b, tail :: tails) :: rest else (b', tails) :: addToGroup b tail rest

/-- What follows each first byte of words, words in their order. -/
def groupByHead (words : List (List UInt8)) : List (List (List UInt8)) :=
  let groups := words.foldr
    (fun word groups =>
      match word with
      | [] => groups
      | b :: tail => addToGroup b tail groups)
    []
  groups.map (·.2)

/-- Adds a tree of words, each of fewer than `fuel` bytes. Words after one that ends here form a
branch of their own, as do the words before it. -/
def addTree : Nat → List (List UInt8) → Machine → Machine
  | 0, _, m => m
  | fuel + 1, words, m =>
    let chunks := splitAtEmpty words
    let groups := (chunks.filter fun chunk => !chunk.isEmpty).map groupByHead
    let m := groups.foldl
      (fun m group =>
        let m := group.foldl
          (fun m tails => if tails.all (·.isEmpty) then m else addTree fuel tails m) m
        if group.length = 1 then m.addState else m.addRanges group.length)
      m
    m.addState.addBranches (groups.length + (chunks.length - 1))

/-- Adds the states of alternatives that are words. -/
def addWords (backward : Bool) (words : List (List Char)) (m : Machine) : Machine :=
  let bytes := words.map fun word => (String.ofList word).toUTF8.toList
  let bytes := if backward then bytes.map List.reverse else bytes
  addTree ((bytes.map List.length).foldl Nat.max 0 + 1) bytes m.addState

end Machine

end SparqlExpr.Regex
