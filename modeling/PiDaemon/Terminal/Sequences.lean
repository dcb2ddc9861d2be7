import PiDaemon.Lib.ParseInt
import PiDaemon.Lib.Utf8
import PiDaemon.Terminal.Screen

/-!
# Control sequences

What a write is read as: graphemes, control characters and escape sequences, and the rest of a
sequence that is not complete.  The sequences themselves only depend on the text and on the
limits; what each of them does to the terminal is an action.

How a text is cut into graphemes, how wide these are, and which texts are URLs of a safe
protocol are parameters.
-/

namespace PiDaemon.Terminal

open Lib

structure TerminalPlatform where
  /-- `Intl.Segmenter` -/
  segment : JsString → List JsString
  visibleWidth : JsString → Nat
  /-- `new URL(value).protocol` is one of `https:`, `http:` and `mailto:`. -/
  safeProtocol : JsString → Bool

/-! ## Styles -/

def clampByte (value : Int) : Nat := (max 0 (min 255 value)).toNat

/-- The foreground, or else the background. -/
def VirtualTerminalStyle.setColor (style : VirtualTerminalStyle) (foreground : Bool)
    (color : VirtualTerminalColor) : VirtualTerminalStyle :=
  if foreground then { style with foreground := some color } else { style with background := some color }

/-- One parameter of `consumeSgr`. -/
def VirtualTerminalStyle.applySgr (style : VirtualTerminalStyle) (value : Int) : VirtualTerminalStyle :=
  if value = 0 then { VirtualTerminalStyle.empty with href := style.href }
  else if value = 1 then { style with bold := true }
  else if value = 2 then { style with dim := true }
  else if value = 3 then { style with italic := true }
  else if value = 4 then { style with underline := true }
  else if value = 7 then { style with inverse := true }
  else if value = 9 then { style with strikethrough := true }
  else if value = 22 then { style with bold := false, dim := false }
  else if value = 23 then { style with italic := false }
  else if value = 24 then { style with underline := false }
  else if value = 27 then { style with inverse := false }
  else if value = 29 then { style with strikethrough := false }
  else if 30 ≤ value ∧ value ≤ 37 then style.setColor true (.indexed (value - 30).toNat)
  else if 40 ≤ value ∧ value ≤ 47 then style.setColor false (.indexed (value - 40).toNat)
  else if 90 ≤ value ∧ value ≤ 97 then style.setColor true (.indexed (value - 90 + 8).toNat)
  else if 100 ≤ value ∧ value ≤ 107 then style.setColor false (.indexed (value - 100 + 8).toNat)
  else if value = 39 then { style with foreground := none }
  else if value = 49 then { style with background := none }
  else style

/-- The color after a parameter 38 or 48, and how many parameters it takes. -/
def extendedColor : List Int → Option (VirtualTerminalColor × Nat)
  | mode :: first :: rest =>
    if mode = 5 then some (.indexed (clampByte first), 2)
    else if mode = 2 then
      match rest with
      | green :: blue :: _ => some (.rgb (clampByte first) (clampByte green) (clampByte blue), 4)
      | _ => none
    else none
  | _ => none

/-- The loop of `consumeSgr`; the first number is how many parameters are passed over. -/
def VirtualTerminalStyle.applySgrs (style : VirtualTerminalStyle) :
    Nat → List Int → VirtualTerminalStyle
  | _, [] => style
  | skip + 1, _ :: rest => style.applySgrs skip rest
  | 0, value :: rest =>
    if value = 38 ∨ value = 48 then
      match extendedColor rest with
      | none => style.applySgrs 0 rest
      | some (color, skip) => (style.setColor (value = 38) color).applySgrs skip rest
    else (style.applySgr value).applySgrs 0 rest

namespace VirtualTerminal

def strip (t : VirtualTerminal)
    (count : VirtualTerminalStrippedSequences → VirtualTerminalStrippedSequences) : VirtualTerminal :=
  { t with strippedCounts := count t.strippedCounts }

def stripDeviceControl (t : VirtualTerminal) : VirtualTerminal :=
  t.strip fun counts => { counts with deviceControl := counts.deviceControl + 1 }

def stripUnsupportedCsi (t : VirtualTerminal) : VirtualTerminal :=
  t.strip fun counts => { counts with unsupportedCsi := counts.unsupportedCsi + 1 }

/-! ## Controls -/

def consumeControl (t : VirtualTerminal) (character : UInt16) : VirtualTerminal :=
  if character = 0x0d then { t with cursorColumn := 0 }
  else if character = 0x0a ∨ character = 0x0b ∨ character = 0x0c then t.lineFeed
  else if character = 0x08 then { t with cursorColumn := t.cursorColumn - 1 }
  else if character = 0x09 then
    { t with cursorColumn := min (t.columns - 1) ((t.cursorColumn / 8 + 1) * 8) }
  else t.strip fun counts => { counts with controlCharacters := counts.controlCharacters + 1 }

def safeHyperlink (platform : TerminalPlatform) (value : JsString) : Bool :=
  byteLength value ≤ 2048 && value.all (fun u => 0x20 ≤ u.toNat && u ≠ 0x7f) &&
    platform.safeProtocol value

/-- The text before the first `;` and the text after it. -/
def splitSemicolon (value : JsString) : JsString × Option JsString :=
  match value.dropWhile (· ≠ 0x3b) with
  | [] => (value, none)
  | _ :: rest => (value.takeWhile (· ≠ 0x3b), some rest)

def consumeOsc (platform : TerminalPlatform) (t : VirtualTerminal) (payload : JsString) :
    VirtualTerminal :=
  let (command, rest) := splitSemicolon payload
  let value := rest.getD []
  if command = text "52" then t.strip fun counts => { counts with osc52 := counts.osc52 + 1 }
  else if command = text "8" then
    let url := (splitSemicolon value).2.getD []
    if url = [] then { t with currentStyle := { t.currentStyle with href := none } }
    else if safeHyperlink platform url then
      { t with currentStyle := { t.currentStyle with href := some url } }
    else t.strip fun counts => { counts with oscOther := counts.oscOther + 1 }
  else t.strip fun counts => { counts with oscOther := counts.oscOther + 1 }

/-- `parameters[index] || 1` -/
def positionOf (parameters : List Int) (index : Nat) : Int :=
  let value := parameters.getD index 0
  if value = 0 then 1 else value

def consumeCsi (t : VirtualTerminal) (parametersText : JsString) (final : UInt16) :
    Attempt VirtualTerminal :=
  let privatePrefix : Bool := parametersText.head? = some 0x3f
  let body := if privatePrefix then parametersText.drop 1 else parametersText
  let parameters := if body = [] then [] else (body.splitOn 0x3b).map parseFinite
  let first := parameters.getD 0 0
  let distance := (max 1 (if first = 0 then 1 else first)).toNat
  if privatePrefix then
    if final = 0x68 ∨ final = 0x6c then
      if first = 25 then .returned { t with cursorVisible := final = 0x68 }
      else if first ≠ 2026 ∧ first ≠ 2004 ∧ first ≠ 2031 then .returned t.stripUnsupportedCsi
      else .returned t
    else .returned t.stripUnsupportedCsi
  else if final = 0x41 then .returned { t with cursorRow := t.cursorRow - distance }
  else if final = 0x42 then
    .returned { t with cursorRow := min (t.rows - 1) (t.cursorRow + distance) }
  else if final = 0x43 then
    .returned { t with cursorColumn := min (t.columns - 1) (t.cursorColumn + distance) }
  else if final = 0x44 then .returned { t with cursorColumn := t.cursorColumn - distance }
  else if final = 0x45 then
    .returned { t with
      cursorRow := min (t.rows - 1) (t.cursorRow + distance)
      cursorColumn := 0 }
  else if final = 0x46 then
    .returned { t with cursorRow := t.cursorRow - distance, cursorColumn := 0 }
  else if final = 0x47 ∨ final = 0x60 then
    .returned { t with cursorColumn := clampIndex t.columns ((distance : Int) - 1) }
  else if final = 0x64 then
    .returned { t with cursorRow := clampIndex t.rows ((distance : Int) - 1) }
  else if final = 0x48 ∨ final = 0x66 then
    .returned { t with
      cursorRow := clampIndex t.rows (positionOf parameters 0 - 1)
      cursorColumn := clampIndex t.columns (positionOf parameters 1 - 1) }
  else if final = 0x4a then t.eraseDisplay first
  else if final = 0x4b then t.eraseLine first
  else if final = 0x6d then
    .returned { t with
      currentStyle := t.currentStyle.applySgrs 0 (if parameters = [] then [0] else parameters) }
  else if final = 0x73 then .returned t.saveCursor
  else if final = 0x75 then .returned t.restoreCursor
  else if final = 0x53 then .returned (t.scrollUp distance)
  else if final = 0x54 then .returned (t.scrollDown distance)
  else .returned t.stripUnsupportedCsi

/-- The end of `consumeEscape`, for an escape sequence of one character. -/
def consumeIntroducer (t : VirtualTerminal) (introducer : UInt16) : Attempt VirtualTerminal :=
  if introducer = 0x37 then .returned t.saveCursor
  else if introducer = 0x38 then .returned t.restoreCursor
  else if introducer = 0x44 then .returned t.lineFeed
  else if introducer = 0x45 then .returned (lineFeed { t with cursorColumn := 0 })
  else if introducer = 0x4d then .returned t.reverseIndex
  else if introducer = 0x63 then t.reset
  else .returned t.stripDeviceControl

end VirtualTerminal

/-! ## Reading -/

inductive TerminalAction where
  | grapheme (segment : JsString)
  | control (character : UInt16)
  | csi (parameters : JsString) (final : UInt16)
  | osc (payload : JsString)
  | kittyGraphics
  | deviceControl
  | introducer (character : UInt16)
  deriving DecidableEq

open VirtualTerminal in
def VirtualTerminal.perform (platform : TerminalPlatform) (t : VirtualTerminal) :
    TerminalAction → Attempt VirtualTerminal
  | .grapheme segment => t.writeGrapheme (platform.visibleWidth segment) segment
  | .control character => .returned (t.consumeControl character)
  | .csi parameters final => t.consumeCsi parameters final
  | .osc payload => .returned (t.consumeOsc platform payload)
  | .kittyGraphics =>
    .returned (t.strip fun counts => { counts with kittyGraphics := counts.kittyGraphics + 1 })
  | .deviceControl => .returned t.stripDeviceControl
  | .introducer character => t.consumeIntroducer character

def ESC : UInt16 := 0x1b

def BEL : UInt16 := 0x07

def isControl (u : UInt16) : Bool :=
  u.toNat < 0x20 || u = 0x7f || (0x80 ≤ u.toNat && u.toNat ≤ 0x9f)

/-- The text up to the first unit that is accepted, the unit, and the rest. -/
def splitAtUnit (accept : UInt16 → Bool) : JsString → Option (JsString × UInt16 × JsString)
  | [] => none
  | u :: rest =>
    if accept u then some ([], u, rest)
    else (splitAtUnit accept rest).map fun found => (u :: found.1, found.2.1, found.2.2)

/-- The text up to the first `ESC \`, and the rest. -/
def splitAtTerminator : JsString → Option (JsString × JsString)
  | [] => none
  | [_] => none
  | u :: v :: rest =>
    if u = ESC ∧ v = 0x5c then some ([], rest)
    else (splitAtTerminator (v :: rest)).map fun found => (u :: found.1, found.2)

/-- What an escape sequence is read as. -/
inductive EscapeResult where
  /-- `undefined` -/
  | incomplete
  /-- The sequence exceeds its bound. -/
  | tooLong
  | action (action : TerminalAction) (rest : JsString)

/-- `assertEscapeBound` of the sequence before the rest. -/
def boundedEscape (limits : VirtualTerminalLimits) (sequence : JsString) (action : TerminalAction)
    (rest : JsString) : EscapeResult :=
  if byteLength sequence > limits.maxEscapeBytes then .tooLong else .action action rest

/-- `consumeEscape` of the text after `ESC`. -/
def consumeEscape (limits : VirtualTerminalLimits) : JsString → EscapeResult
  | [] => .incomplete
  | introducer :: rest =>
    if introducer = 0x5b then
      match splitAtUnit (fun u => 0x40 ≤ u.toNat && u.toNat ≤ 0x7e) rest with
      | none => .incomplete
      | some (parameters, final, rest) =>
        boundedEscape limits (ESC :: introducer :: parameters ++ [final]) (.csi parameters final) rest
    else if introducer = 0x5d then
      match splitAtUnit (· = BEL) rest, splitAtTerminator rest with
      | none, none => .incomplete
      | some (payload, _, rest), none =>
        boundedEscape limits (ESC :: introducer :: payload ++ [BEL]) (.osc payload) rest
      | none, some (payload, rest) =>
        boundedEscape limits (ESC :: introducer :: payload ++ [ESC, 0x5c]) (.osc payload) rest
      | some (payload, _, rest), some (payload', rest') =>
        if payload.length < payload'.length then
          boundedEscape limits (ESC :: introducer :: payload ++ [BEL]) (.osc payload) rest
        else
          boundedEscape limits (ESC :: introducer :: payload' ++ [ESC, 0x5c]) (.osc payload') rest'
    else if introducer = 0x50 ∨ introducer = 0x5f ∨ introducer = 0x5e ∨ introducer = 0x58 then
      match splitAtTerminator rest with
      | none => .incomplete
      | some (payload, rest) =>
        boundedEscape limits (ESC :: introducer :: payload ++ [ESC, 0x5c])
          (if introducer = 0x5f ∧ payload.head? = some 0x47 then .kittyGraphics else .deviceControl)
          rest
    else if 0x20 ≤ introducer.toNat ∧ introducer.toNat ≤ 0x2f then
      match splitAtUnit (fun u => u.toNat < 0x20 || 0x2f < u.toNat) rest with
      | none => .incomplete
      | some (intermediates, final, rest) =>
        if 0x30 ≤ final.toNat ∧ final.toNat ≤ 0x7e then
          boundedEscape limits (ESC :: introducer :: intermediates ++ [final]) .deviceControl rest
        else .action .deviceControl (final :: rest)
    else .action (.introducer introducer) rest

/-- What a text is read as. -/
structure Scan where
  actions : List TerminalAction
  /-- The sequence that is not complete. -/
  pending : JsString
  /-- A sequence has exceeded its bound. -/
  tooLong : Bool
  deriving DecidableEq

def Scan.prepend (actions : List TerminalAction) (scan : Scan) : Scan :=
  { scan with actions := actions ++ scan.actions }

/-- The loop of `consume`, with as many turns as the text has units. -/
def scanText (platform : TerminalPlatform) (limits : VirtualTerminalLimits) :
    Nat → JsString → Scan
  | 0, _ => ⟨[], [], false⟩
  | _, [] => ⟨[], [], false⟩
  | fuel + 1, character :: rest =>
    if character = ESC then
      match consumeEscape limits rest with
      | .incomplete =>
        if byteLength (character :: rest) > limits.maxEscapeBytes then ⟨[], [], true⟩
        else ⟨[], character :: rest, false⟩
      | .tooLong => ⟨[], [], true⟩
      | .action action rest => (scanText platform limits fuel rest).prepend [action]
    else if isControl character then
      (scanText platform limits fuel rest).prepend [.control character]
    else
      let printable := (character :: rest).takeWhile fun u => !isControl u
      (scanText platform limits fuel ((character :: rest).dropWhile fun u => !isControl u)).prepend
        ((platform.segment printable).map .grapheme)

namespace VirtualTerminal

/-- What `consume` reads a write as, after the sequence that is pending. -/
def writeScan (platform : TerminalPlatform) (limits : VirtualTerminalLimits) (t : VirtualTerminal)
    (data : JsString) : Scan :=
  scanText platform limits (t.pendingEscape ++ data).length (t.pendingEscape ++ data)

/-- The part of `write` before the text is consumed. -/
def beginWrite (t : VirtualTerminal) (data : JsString) : VirtualTerminal :=
  { t with
    writeCount := t.writeCount + 1
    acceptedByteCount := t.acceptedByteCount + byteLength data
    pendingEscape := [] }

/-- `write`, with the loop of `consume` -/
def write (platform : TerminalPlatform) (limits : VirtualTerminalLimits) (t : VirtualTerminal)
    (data : JsString) : Attempt VirtualTerminal :=
  if byteLength data > limits.maxWriteBytes then .threw t
  else
    let scan := t.writeScan platform limits data
    (Attempt.each (perform platform) scan.actions (t.beginWrite data)).andThen fun t =>
      if scan.tooLong then .threw t else .returned { t with pendingEscape := scan.pending }

def clearLine (t : VirtualTerminal) : Attempt VirtualTerminal := t.eraseLine 0

def clearFromCursor (t : VirtualTerminal) : Attempt VirtualTerminal := t.eraseDisplay 0

def clearScreen (t : VirtualTerminal) : Attempt VirtualTerminal :=
  (t.eraseDisplay 2).andThen fun t => .returned { t with cursorRow := 0, cursorColumn := 0 }

/-- `truncateUtf8`, code point by code point. -/
def truncateFrom (maximumBytes : Nat) : JsString → JsString → JsString
  | result, [] => result
  | result, [u] => if byteLength result + byteLength [u] > maximumBytes then result else result ++ [u]
  | result, u :: v :: rest =>
    if isHighSurrogate u && isLowSurrogate v then
      if byteLength result + byteLength [u, v] > maximumBytes then result
      else truncateFrom maximumBytes (result ++ [u, v]) rest
    else if byteLength result + byteLength [u] > maximumBytes then result
    else truncateFrom maximumBytes (result ++ [u]) (v :: rest)

def truncateUtf8 (value : JsString) (maximumBytes : Nat) : JsString :=
  if byteLength value ≤ maximumBytes then value else truncateFrom maximumBytes [] value

def setTitle (limits : VirtualTerminalLimits) (t : VirtualTerminal) (title : JsString) :
    VirtualTerminal :=
  let sanitized := title.filter fun u => !isControl u
  { t with title := truncateUtf8 sanitized limits.maxTitleBytes }

end VirtualTerminal

end PiDaemon.Terminal
