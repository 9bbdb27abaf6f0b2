import Galley.Renderer.Expansion

/-! Where the streams of commands lead: redirections are expanded, files are opened for them, and the streams of the
shell are led there while the command runs. -/
namespace Galley
namespace Shell

/-- A redirection whose words are expanded. A document is expanded when the stream is led to it. -/
inductive Lead where
  | file (stream : Nat) (opening : Opening) (path : String)
  | text (stream : Nat) (document : List Piece)
  | copy (stream : Nat) (source : Option Nat)

/-- The stream that is led elsewhere. -/
def Lead.stream : Lead → Nat
  | file stream _ _ | text stream _ | copy stream _ => stream

/-- Expands the words of redirections, in order. -/
def expandRedirections (run : Substitute) (s : Shell) (leads : List Lead) : List Redirection → Shell × List Lead
  | [] => (s, leads)
  | r :: more =>
    if s.halted.isSome then (s, leads)
    else
      match r with
      | .file stream opening path =>
        let (s, path) := s.expandWhole run false path
        expandRedirections run s (leads ++ [.file stream opening path]) more
      | .document stream text =>
        expandRedirections run s (leads ++ [.text stream text]) more
      | .copy stream source =>
        let (s, text) := s.expandWhole run false source
        match text.toList with
        | ['-'] => expandRedirections run s (leads ++ [.copy stream none]) more
        | [c] =>
          if c.isDigit then
            expandRedirections run s (leads ++ [.copy stream (some (c.toNat - 0x30))]) more
          else (misspelt s, leads)
        | _ => (misspelt s, leads)
where
  /-- A stream that is no digit. -/
  misspelt (s : Shell) : Shell :=
    if s.halted.isSome then s
    else { { s with line := s.reached }.fail "Syntax error: Bad fd number" with line := s.line }

/-! ## Opening -/

/-- Leads a stream to a handle. -/
def withStream (s : Shell) (stream handle : Nat) : Shell :=
  { s with streams := (stream, handle) :: s.streams.filter (·.1 != stream) }

/-- A shell with one more handle, and its number. -/
def withHandle (s : Shell) (h : Handle) : Shell × Nat := ({ s with handles := s.handles.push h }, s.handles.size)

/-- The complaint about a file that cannot be opened. -/
def openComplaint (creates : Bool) (path : String) (e : IoError) : String :=
  let isMissing := e == .notFound || e == .notDirectory
  if creates then "cannot create " ++ path ++ ": " ++ (if isMissing then "Directory nonexistent" else Job.wording e)
  else "cannot open " ++ path ++ ": " ++ (if isMissing then "No such file" else Job.wording e)

/-- A handle for what is at the end of names. -/
def openNames (s : Shell) (opening : Opening) (names : List String) : Except IoError (Shell × Nat) :=
  let emptied : Shell := { s with disk := s.disk.set names (.file .empty) }
  match s.disk.root.node? names, opening with
  | some (.device d), _ => .ok (s.withHandle (.device d))
  | some (.directory _), .read | some (.file _), .read => .ok (s.withHandle (.file names 0 opening))
  | some (.directory _), _ => .error .isDirectory
  | none, .read => .error .notFound
  | some (.file _), .write _ | none, _ => .ok (emptied.withHandle (.file names 0 opening))
  | some (.file _), _ => .ok (s.withHandle (.file names 0 opening))

/-- A handle for a file. The standard streams have names too; a name of one that is a pipe leads to that pipe. A
shell that keeps files does not make what is there anew. -/
def openFile (s : Shell) (opening : Opening) (path : String) : Except String (Shell × Nat) :=
  let isRead := opening matches .read
  let located := if isRead then s.disk.locate (wide path) else s.disk.locateForWriting (wide path)
  let there := located.toOption.bind s.disk.root.node?
  let isKept := s.has 'C' && (opening matches .write false) && there.isSome
  let complaint := openComplaint (!isRead && !isKept) path
  match located with
  | .error e => .error (complaint e)
  | .ok names =>
    match Disk.streamOf? names with
    | some stream =>
      match s.handle? stream with
      | none => .error (complaint .notFound)
      | some (_, .file names _ _) => (s.openNames opening names).mapError complaint
      | some (n, _) => .ok (s, n)
    | none =>
      if isKept && there.any (·.isFile) then .error ("cannot create " ++ path ++ ": File exists")
      else (s.openNames opening names).mapError complaint

/-- The shell without a stream. -/
def withoutStream (s : Shell) (stream : Nat) : Shell :=
  { s with streams := s.streams.filter (·.1 != stream) }

/-- Leads a stream where a redirection says, or complains. If it should be a copy and that fails, it is closed. -/
def lead (run : Substitute) (s : Shell) : Lead → Shell × Bool
  | .text stream document =>
    let (s, f) := expandPieces run .nothing .never s .none document
    match s.halted with
    | none =>
      let (s, n) := s.withHandle (.source (Text.latin1Bytes f.whole.text))
      (s.withStream stream n, true)
    | some halt => ({ s with halted := if halt == .failure then none else some halt }, false)
  | .copy stream none => (s.withoutStream stream, true)
  | .copy stream (some source) =>
    match s.streams.lookup source with
    | some n => (s.withStream stream n, true)
    | none =>
      if stream == source then (s, true)
      else ((s.withoutStream stream).complain (toString source ++ ": Bad file descriptor"), false)
  | .file stream opening path =>
    match s.openFile opening path with
    | .ok (s, n) => (s.withStream stream n, true)
    | .error message => (s.complain message, false)

/-- Leads streams in turn, up to the first failure. -/
def leadAll (run : Substitute) (s : Shell) : List Lead → Shell × Bool
  | [] => (s, true)
  | l :: more =>
    match s.lead run l with
    | (s, true) => leadAll run s more
    | failed => failed

/-- The shell after a stream could not be led where it should, which may be more than a command must bear. -/
def misled (s : Shell) (isFatal : Bool) : Shell :=
  if s.halted.isSome then s else { s with last := 2, halted := if isFatal then some .failure else none }

/-- The shell with the streams of redirections as they were in another. -/
def restored (s other : Shell) (leads : List Lead) : Shell :=
  leads.foldl (fun s l =>
    match other.streams.lookup l.stream with
    | some n => s.withStream l.stream n
    | none => s.withoutStream l.stream) s

/-- Runs something with streams redirected. If that cannot be done it does not run. -/
def redirected (run : Substitute) (s : Shell) (rs : List Redirection) (body : Shell → Shell) : Shell :=
  let (s, leads) := s.expandRedirections run [] rs
  if s.halted.isSome then s
  else
    match s.leadAll run leads with
    | (inner, true) => (body inner).restored s leads
    | (inner, false) => (inner.misled false).restored s leads

end Shell
end Galley
