import PacketHeaders.Dissection
import PacketHeaders.Draft

/-!
# Building sessions

A session is a frame together with the drafts that are open in it, each begun from the one outside
it. A script of steps drives it: a step goes to the innermost draft, or to the frame when none is
open, and answers with an outcome at that level. A draft that is closed hands the frame back to the
draft outside. When a draft cannot be begun, for want of room or because nothing of the kind begins
there, everything up to the step that would have closed it is passed over.
-/

namespace PacketHeaders

inductive Level
  | root
  | ethernet
  | ipv4
  | icmp
  | udp
deriving DecidableEq, Repr

def Draft.level : Draft → Level
  | ethernet _ => .ethernet
  | ipv4 _ => .ipv4
  | icmp _ => .icmp
  | udp _ => .udp

inductive Step
  /-- Begins a draft anywhere in the frame, when none is open. -/
  | begin (layer : Layer) (start : Nat)
  /-- Begins the draft right behind the innermost one. -/
  | enter (layer : Layer)
  | close
  | poke (pos : Nat) (bytes : List UInt8)
  | frame
  | dissect
  /-- Walks from the present draft, or from a header anywhere in the frame. -/
  | walk (origin : Option (Layer × Nat)) (layers : List Layer) (ends : Option Endpoints)
  | header
  | call (reading : Reading)
deriving DecidableEq, Repr

inductive Answer
  | reply (reply : Reply)
  | opened
  | frame (bytes : List UInt8)
  | dissection (dissection : Dissection)
  | sightings (sightings : List (Except Refusal Sighting))
  | header (header : Header)

/-- What a step answered, and the draft as it stood afterwards. -/
structure Outcome where
  level : Level
  answer : Except Refusal Answer
  draft : Option Draft

/-- The drafts are listed from the innermost outwards. The frame is up to date whenever no draft is
open; otherwise the innermost draft has it. While `skipping` is positive, that many closing steps
are still to come before the session goes on. -/
structure Session where
  frame : List UInt8
  drafts : List Draft
  skipping : Nat

namespace Session

def start (frame : List UInt8) : Session := ⟨frame, [], 0⟩

def report (s : Session) (answer : Except Refusal Answer) : Outcome :=
  match s.drafts with
  | [] => ⟨.root, answer, none⟩
  | d :: _ => ⟨d.level, answer, some d⟩

theorem answer_report (s : Session) (answer : Except Refusal Answer) :
    (s.report answer).answer = answer := by
  unfold report
  split <;> rfl

def say (s : Session) (answer : Except Refusal Answer) : Session × Option Outcome :=
  (s, some (s.report answer))

/-- What a step that begins a draft begins; none for any other step. -/
def beginning? (s : Session) : Step → Option (Except Refusal Draft)
  | .begin layer start =>
    match s.drafts with
    | [] => some (Draft.place layer s.frame start)
    | _ :: _ => some (.error .noSuchStep)
  | .enter layer =>
    match s.drafts with
    | [] => some (.error .noSuchStep)
    | d :: _ => some (d.next layer)
  | _ => none

/-- Goes on inside a new draft, or passes over the steps that were meant for it. -/
def goInside (s : Session) : Except Refusal Draft → Session × Option Outcome
  | .ok d => { s with drafts := d :: s.drafts }.say (.ok .opened)
  | .error refusal => { s with skipping := 1 }.say (.error refusal)

def close (s : Session) : Session × Option Outcome :=
  match s.drafts with
  | [] => s.say (.error .noSuchStep)
  | [d] => { s with frame := d.bytes, drafts := [] }.say (.ok (.frame d.bytes))
  | d :: outer :: rest =>
    { s with drafts := outer.resume d.bytes :: rest }.say (.ok (.reply .nothing))

def atRoot (s : Session) : Step → Session × Option Outcome
  | .poke pos bytes =>
    let frame := Octets.splice s.frame pos bytes
    { s with frame }.say (.ok (.frame frame))
  | .frame => s.say (.ok (.frame s.frame))
  | .dissect => s.say (((dissect s.frame).map .dissection).mapError .fault)
  | .walk (some (layer, start)) layers ends =>
    s.say (.ok (.sightings (Sighting.walk ends (Header.place layer s.frame start) layers)))
  | _ => s.say (.error .noSuchStep)

def atDraft (s : Session) (d : Draft) (outer : List Draft) : Step → Session × Option Outcome
  | .header => s.say (.ok (.header d.header))
  | .walk _ layers ends => s.say (.ok (.sightings (Sighting.walk ends (.ok d.header) layers)))
  | .call reading =>
    let result := d.call reading
    { s with drafts := result.state :: outer }.say (result.answer.map .reply)
  | _ => s.say (.error .noSuchStep)

/-- Passes over a step, keeping count of what it opens and closes. -/
def skip (s : Session) : Step → Session
  | .begin _ _ | .enter _ => { s with skipping := s.skipping + 1 }
  | .close => { s with skipping := s.skipping - 1 }
  | _ => s

def step (s : Session) (step : Step) : Session × Option Outcome :=
  if s.skipping ≠ 0 then (s.skip step, none)
  else match s.beginning? step with
    | some draft => s.goInside draft
    | none =>
      match step, s.drafts with
      | .close, _ => s.close
      | step, [] => s.atRoot step
      | step, d :: outer => s.atDraft d outer step

/-- Closes the drafts that are still open. -/
def finish (s : Session) : Session × List Outcome :=
  (s.drafts).foldl (fun (s, outcomes) _ =>
    let (s, outcome) := s.close
    (s, outcomes ++ outcome.toList)) (s, [])

def run (s : Session) : List Step → Session × List Outcome
  | [] => s.finish
  | step :: steps =>
    let (s, outcome) := s.step step
    let (s, outcomes) := s.run steps
    (s, outcome.toList ++ outcomes)

end Session

end PacketHeaders
