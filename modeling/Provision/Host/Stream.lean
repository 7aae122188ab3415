import Provision.Host.Basic
import Provision.Text.Digits

namespace Provision.Host

open Files (FileError Tree)

/-- Changes an open stream. -/
def alterStream (y : Host) (stream : Nat) (f : Stream → Stream) : Host :=
  { y with streams := y.streams.modify stream f }

/-- The bytes of a device that are read at a time. -/
def deviceBytes (d : Files.Device) (count : Nat) : Chars :=
  match d with
  | .zero | .full => List.replicate count '\x00'
  | .random => (List.range count).map fun i => Char.ofNat ((i * 167 + 13) * 31 % 251)
  | .null | .terminal => []

/-- Reads up to so many bytes. At the end there are none. While a pipe is empty that somebody can
still write to, there is no answer. -/
def read (y : Host) (pid descriptor count : Nat) : Option (Except FileError Chars × Host) :=
  match y.streamNumber? pid descriptor with
  | none => some (.error .badDescriptor, y)
  | some number =>
    match y.streams[number]? with
    | none => some (.error .badDescriptor, y)
    | some s =>
      if !s.readable then some (.error .badDescriptor, y)
      else
        match s.target with
        | .pipe id _ =>
          let p := y.pipes.getD id .empty
          if p.size = 0 then if y.holdsEnd id true then none else some (.ok [], y)
          else
            let (text, p) := p.take count
            some (.ok text, { y with pipes := y.pipes.set! id p })
        | .node id =>
          match y.tree.node? id with
          | none => some (.ok [], y)
          | some n =>
            match n.content with
            | .directory .. => some (.error .isADirectory, y)
            | .device d => some (.ok (deviceBytes d count), y)
            | _ =>
              let text := Bytes.ofBytes ((n.bytes.drop s.offset).take count)
              some (.ok text,
                y.alterStream number fun s => { s with offset := s.offset + text.length })

/-- Takes a text up to a mark, which is dropped. The answer tells whether the mark was there. -/
def readThrough (y : Host) (pid descriptor : Nat) (mark : Char) :
    Option (Except FileError (Chars × Bool) × Host) :=
  match y.streamNumber? pid descriptor with
  | none => some (.error .badDescriptor, y)
  | some number =>
    match y.streams[number]? with
    | none => some (.error .badDescriptor, y)
    | some s =>
      if !s.readable then some (.error .badDescriptor, y)
      else
        match s.target with
        | .pipe id _ =>
          let p := y.pipes.getD id .empty
          match p.takeThrough? mark with
          | some (text, p) => some (.ok (text, true), { y with pipes := y.pipes.set! id p })
          | none =>
            if y.holdsEnd id true && p.room ≠ 0 then none
            else
              some (.ok (p.content, false),
                { y with pipes := y.pipes.set! id { p with front := [], back := [], size := 0 } })
        | .node id =>
          match y.tree.node? id with
          | some ⟨.directory .., _, _, _, _, _, _⟩ => some (.error .isADirectory, y)
          | some n =>
            let rest := Bytes.ofBytes (n.bytes.drop s.offset)
            let text := rest.takeWhile (· != mark)
            let found := text.length < rest.length
            let used := if found then text.length + 1 else text.length
            some (.ok (text, found),
              y.alterStream number fun s => { s with offset := s.offset + used })
          | none => some (.ok ([], false), y)

/-- Puts bytes at a place of a text, which is filled up with zeros if it is too short. -/
def overwrite (offset : Nat) (new old : List UInt8) : List UInt8 :=
  if old.length ≤ offset then old ++ List.replicate (offset - old.length) 0 ++ new
  else old.take offset ++ new ++ old.drop (offset + new.length)

/-- Writes bytes. The answer are those that are still to be written. While a pipe is full that
somebody can still read, there is none. Who writes to a pipe that nobody reads gets a signal. -/
def write (y : Host) (pid descriptor : Nat) (text : Chars) :
    Option (Except FileError Chars × Host) :=
  match y.streamNumber? pid descriptor with
  | none => some (.error .badDescriptor, y)
  | some number =>
    match y.streams[number]? with
    | none => some (.error .badDescriptor, y)
    | some s =>
      if !s.writable then some (.error .badDescriptor, y)
      else
        match s.target with
        | .pipe id _ =>
          if !y.holdsEnd id false then some (.error .brokenPipe, y.signal pid 13)
          else
            let p := y.pipes.getD id .empty
            if text.length ≤ p.room || !p.bounded then
              some (.ok [], { y with pipes := y.pipes.set! id (p.put text) })
            else if p.room = 0 || text.length ≤ 4096 then none
            else
              let room := p.room
              some (.ok (text.drop room),
                { y with pipes := y.pipes.set! id (p.put (text.take room)) })
        | .node id =>
          match y.tree.content? id with
          | some (.device .full) => some (.error .noSpace, y)
          | some (.file bytes) =>
            let offset := if s.appending then bytes.length else s.offset
            let tree := { y.tree with time := y.fileTime }.updateBytes id
              (overwrite offset (Bytes.toBytes text))
            some (.ok [], { y with tree }.alterStream number fun s =>
              { s with offset := offset + text.length })
          | _ => some (.ok [], y)

/-- Moves the place of a stream in a file. -/
def seek (y : Host) (pid descriptor : Nat) (f : Nat → Nat) : Host :=
  match y.streamNumber? pid descriptor with
  | none => y
  | some number => y.alterStream number fun s => { s with offset := f s.offset }

/-- Whether the place in a stream can be moved. -/
def isSeekable (y : Host) (pid descriptor : Nat) : Bool :=
  (y.stream? pid descriptor).any fun s =>
    match s.target with
    | .node _ => true
    | .pipe .. => false

open Files (Content)

/-- For what a path is opened. -/
inductive Opening
  | read
  | write
  | append
  | both
  | fresh
  deriving DecidableEq, Repr

namespace Opening

def reads : Opening → Bool
  | .read | .both => true
  | _ => false

def writes : Opening → Bool
  | .read => false
  | _ => true

end Opening

/-- The descriptor that a path names which leads to an open stream. -/
def descriptorOf? (path : String) : Option Nat :=
  match path with
  | "/dev/stdin" => some 0
  | "/dev/stdout" => some 1
  | "/dev/stderr" => some 2
  | _ =>
    ["/dev/fd/", "/proc/self/fd/"].findSome? fun start =>
      if start.toList.isPrefixOf path.toList then
        Text.readNat? 10 (path.toList.drop start.length)
      else none

/-- The pipe behind a queue. -/
def queuePipe (y : Host) (id : Nat) : Nat × Host :=
  match y.queues.lookup id with
  | some pipe => (pipe, y)
  | none =>
    let (pipe, y) := y.addPipe
    (pipe, { y with queues := (id, pipe) :: y.queues })

/-- Opens a stream to a node. -/
def openNode (y : Host) (id : Nat) (o : Opening) : Except FileError Nat × Host :=
  let stream (y : Host) (target : Target) : Except FileError Nat × Host :=
    let (n, y) := y.addStream ⟨target, 0, o.reads, o.writes, o = .append⟩
    (.ok n, y)
  match y.tree.content? id with
  | some (.directory ..) => if o.writes then (.error .isADirectory, y) else stream y (.node id)
  | some .queue =>
    let (pipe, y) := y.queuePipe id
    stream y (.pipe pipe o.writes)
  | some (.device .terminal) => (.error .invalid, y)
  | _ =>
    let y := if o = .write || o = .fresh then
        { y with tree := { y.tree with time := y.fileTime }.updateBytes id fun _ => [] }
      else y
    stream y (.node id)

/-- Opens a path as it is seen from a directory. A file that is made gets permissions. -/
def openPath (y : Host) (pid directory mode : Nat) (path : String) (o : Opening) :
    Except FileError Nat × Host :=
  match descriptorOf? path with
  | some descriptor =>
    match y.stream? pid descriptor with
    | none => (.error .notFound, y)
    | some s =>
      match s.target with
      | .node id => y.openNode id o
      | .pipe .. =>
        let (n, y) := y.addStream s
        (.ok n, y)
  | none =>
    let seen := { y.tree with working := directory, time := y.fileTime }
    let found : Except FileError (Nat × Tree) := do
      if o.writes then
        if o = .fresh then
          match (← seen.place true path).node with
          | some id => if (seen.node? id).any Files.Node.isFile then throw .exists
          | none => pure ()
        seen.ensureFile path mode
      else return (← seen.locate path, seen)
    match found with
    | .error e => (.error e, y)
    | .ok (id, tree) =>
      { y with tree := { tree with working := y.tree.working } }.openNode id o

end Provision.Host
