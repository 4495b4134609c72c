import CounterBoard.Desk

/-!
Clients of a service at work. A client gives a command, is told the reply to it when there is one,
and looks at the charts only after that; anything else can happen at the desk in between, commands
of other clients included.
-/

set_option autoImplicit false
set_option relaxedAutoImplicit false

namespace CounterBoard

inductive Client
  | idle
  /-- Its command came in at a place, and it was not told the reply yet. -/
  | waiting (place : Nat)
  /-- It was told the reply to its command, and has not looked at the charts since. -/
  | told (reply : Reply)
  /-- It was told the reply and then saw a chart, if there was one. -/
  | served (reply : Reply) (chart : Option Chart)
  | refused (cause : Interruption)
  deriving DecidableEq

structure Traffic where
  desk : Desk
  clients : Nat → Client

namespace Traffic

inductive Move
  /-- Something happens at the desk. -/
  | service (move : Desk.Move)
  | ask (client : Nat) (command : Command)
  /-- A client takes the answer to its command. -/
  | hear (client : Nat)
  | look (client : Nat)

def start (service : Service) : Traffic :=
  ⟨.start service, fun _ => .idle⟩

def put (clients : Nat → Client) (client : Nat) (standing : Client) : Nat → Client :=
  fun other => if other = client then standing else clients other

/-- A client that waits for the reply to an earlier command gives no other. -/
def ask (t : Traffic) (client : Nat) (command : Command) : Traffic :=
  match t.clients client with
  | .waiting _ => t
  | _ => ⟨t.desk.ask command, put t.clients client (.waiting t.desk.asked.length)⟩

def hear (t : Traffic) (client : Nat) : Traffic :=
  match t.clients client with
  | .waiting place =>
    match t.desk.answers place with
    | some (.ok reply) => { t with clients := put t.clients client (.told reply) }
    | some (.error cause) => { t with clients := put t.clients client (.refused cause) }
    | none => t
  | _ => t

def look (t : Traffic) (client : Nat) : Traffic :=
  match t.clients client with
  | .told reply =>
    { t with clients := put t.clients client (.served reply t.desk.service.charts.latest) }
  | _ => t

/-- What comes of a move; one that is not possible changes nothing. -/
def step (t : Traffic) : Move → Except Fault Traffic
  | .service move => do
    let desk ← t.desk.step move
    .ok { t with desk }
  | .ask client command => .ok (t.ask client command)
  | .hear client => .ok (t.hear client)
  | .look client => .ok (t.look client)

def run (t : Traffic) (moves : List Move) : Except Fault Traffic :=
  moves.foldlM step t

end Traffic

end CounterBoard
