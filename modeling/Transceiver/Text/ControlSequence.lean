/-!
Texts without the control sequences of terminals. A sequence starts with an escape character and
steers the terminal instead of being shown; what a terminal would show of a text is what remains,
with no control characters but white space. White space is shown inside of a sequence too, and the
outlet of the text decides what becomes of the sequence.
-/

namespace Transceiver.Text

inductive Mode
  | plain
  | escape
  | escapeIntermediate
  /-- In a sequence that a letter ends. -/
  | control
  /-- In a system command, ended by a bell. -/
  | system
  /-- At the start of a device string, and behind its parameters and intermediate characters. -/
  | deviceEntry
  | deviceParameter
  | deviceIntermediate
  /-- In the body of a string. -/
  | body
  deriving DecidableEq, Repr

namespace Mode

def terminates (c : Char) : Bool :=
  (String.utf8EncodeChar c).contains 0x9C

def afterEscape (c : Char) : Mode :=
  if c < '0' then .escapeIntermediate
  else
    match c with
    | '[' => .control
    | ']' => .system
    | 'P' => .deviceEntry
    | 'X' | '^' | '_' => .body
    | _ => .plain

def afterVisible (mode : Mode) (c : Char) : Mode :=
  match mode with
  | .plain => .plain
  | .escape => afterEscape c
  | .escapeIntermediate => if c < '0' then .escapeIntermediate else .plain
  | .control => if c < '@' then .control else .plain
  | .system => .system
  | .deviceEntry =>
      if c < '0' then .deviceIntermediate else if c < '@' then .deviceParameter else .body
  | .deviceParameter =>
      if c < '0' then .deviceIntermediate else if c < '<' then .deviceParameter else .body
  | .deviceIntermediate => if c < '0' then .deviceIntermediate else .body
  | .body => .body

def obeys : Mode → Bool
  | .plain | .escape | .escapeIntermediate | .control => true
  | _ => false

def isLayout (c : Char) : Bool :=
  c = '\t' || c = '\n' || c = '\x0c' || c = '\r'

/-- Where a character leads, and whether it is shown. White space among the controls is shown if it
is obeyed. -/
def step (mode : Mode) (c : Char) : Mode × Bool :=
  if c = '\x1b' then (.escape, false)
  else if c = '\x18' || c = '\x1a' then (.plain, false)
  else if c < ' ' then
    if isLayout c then (mode, mode.obeys)
    else if c = '\x07' && mode = .system then (.plain, false)
    else (mode, false)
  else if c = '\x7f' then (mode, false)
  else if c < '\x7f' then (mode.afterVisible c, mode = .plain)
  else if mode = .plain then (.plain, true)
  else if mode = .body && terminates c then (.plain, false)
  else (mode, false)

end Mode

inductive Outlet
  /-- Into another text, where white space breaks off the sequence it stands in. -/
  | text
  /-- To an output stream, where a sequence goes on behind the run of shown characters that white
  space began in it, unless one of them lies beyond the basic block. -/
  | stream
  deriving DecidableEq, Repr

def Outlet.behind (outlet : Outlet) (mode : Mode) (c : Char) : Mode :=
  match outlet with
  | .text => .plain
  | .stream => if c < '\x7f' then mode else .plain

/-- What is shown of a text by a reader who stands at `mode`. In a run of shown characters those
that follow are shown as in plain text. -/
def shownFrom (outlet : Outlet) (mode : Mode) (inRun : Bool) : List Char → List Char
  | [] => []
  | c :: rest =>
      let seen := if inRun then Mode.plain else mode
      if (seen.step c).2 then c :: shownFrom outlet (outlet.behind mode c) true rest
      else shownFrom outlet (mode.step c).1 false rest

def withoutControls (outlet : Outlet) (text : List Char) : List Char :=
  shownFrom outlet .plain true text

def spellControl (c : Char) : List Char :=
  match c with
  | '\x1b' => ['\\', 'x', '1', 'b']
  | '\x07' => ['\\', 'x', '0', '7']
  | '\x08' => ['\\', 'x', '0', '8']
  | '\x0c' => ['\\', 'x', '0', 'c']
  | '\x7f' => ['\\', 'x', '7', 'f']
  | c =>
      if 0x80 ≤ c.toNat && c.toNat ≤ 0x9F then
        ['\\', 'u', '\x7b'] ++ Nat.toDigits 16 c.toNat ++ ['\x7d']
      else [c]

def spellControls (text : List Char) : List Char :=
  text.flatMap spellControl

end Transceiver.Text
