import Mathlib.Data.Finset.Basic
import Nextmini.Controller.LateJoiners

/-!
# Group directory

The requests that create groups, handled on different connections, and the directories that nodes are
sent. A handling draws an id, inserts its row, answers its node, reads the whole table, and sends what
it read to one connected node after the other; other handlings come in between at every query and
every send. A node takes the directory it received last for the whole. Queries that do not violate a
constraint succeed, and so do sends, and a connection delivers in order. Start-ups, and the flag by
which they leave the directory out, are outside.
-/

namespace Nextmini.Controller

open Nextmini.Library Nextmini.Routing

set_option autoImplicit false

/-! ## Statements -/

namespace GroupTables

def drawGroupId (tables : GroupTables) : GroupTables :=
  { tables with nextGroupId := tables.nextGroupId + 1 }

/-- `none`: the id is beyond the route namespace, or the label or the address is in use. -/
def insertGroup (baseAddr mask : Ipv4Addr) (tables : GroupTables) (label : String)
    (srcNodeId : NodeId) (groupId : Nat) : Option (GroupTables × Group) :=
  let groupIp := allocateMulticastIp baseAddr mask (UInt32.ofNat groupId)
  if maxGroupId < groupId then none
  else if tables.groups.any fun group => group.label = label || group.groupIp = groupIp then none
  else
    let group : Group := ⟨groupId, label, asI32 srcNodeId, groupIp⟩
    some ({ tables with groups := tables.groups ++ [group] }, group)

/-- The two statements of a request, with nothing in between. -/
theorem create_group_statements (baseAddr mask : Ipv4Addr) (tables : GroupTables) (label : String)
    (srcNodeId : NodeId) :
    tables.createGroup baseAddr mask label srcNodeId =
      ((tables.drawGroupId.insertGroup baseAddr mask label srcNodeId tables.nextGroupId).map
        Prod.fst).getD tables.drawGroupId := by
  simp only [createGroup, insertGroup, drawGroupId]
  by_cases beyond : maxGroupId < tables.nextGroupId
  · simp [beyond]
  · simp only [beyond, if_false, List.any_eq_true, Bool.or_eq_true, decide_eq_true_eq]
    split <;> rfl

theorem insert_group_appends {baseAddr mask : Ipv4Addr} {tables next : GroupTables} {label : String}
    {srcNodeId : NodeId} {groupId : Nat} {group : Group}
    (inserted : tables.insertGroup baseAddr mask label srcNodeId groupId = some (next, group)) :
    next.groups = tables.groups ++ [group] := by
  simp only [insertGroup] at inserted
  split_ifs at inserted
  cases inserted
  rfl

end GroupTables

/-! ## Handlings -/

/-- How far the handling of a request is. -/
inductive Creation where
  | requested (label : String) (srcNodeId : NodeId)
  | numbered (label : String) (srcNodeId : NodeId) (groupId : Nat)
  | inserted (group : Group)
  | answered
  | loaded (entries : List GroupDirectoryEntry)
  | broadcasting (entries : List GroupDirectoryEntry) (targets : List NodeId)

namespace Creation

/-- The handling is still to send the group of that place in the table to the node. -/
def Brings (node : NodeId) (place : Nat) : Creation → Prop
  | requested _ _ => False
  | numbered _ _ _ => False
  | inserted _ => True
  | answered => True
  | loaded entries => place < entries.length
  | broadcasting entries targets => node ∈ targets ∧ place < entries.length

def directory : Creation → Option (List GroupDirectoryEntry)
  | loaded entries => some entries
  | broadcasting entries _ => some entries
  | _ => none

/-- The group that the handling has inserted and not yet answered. -/
def unanswered : Creation → Option Group
  | inserted group => some group
  | _ => none

end Creation

/-- The tables, the request that each connection handles, the groups whose creation was answered, and
the directories sent to each node in order. -/
structure DirectorySync where
  tables : GroupTables
  creations : Nat → Option Creation
  acknowledged : List Group
  sent : NodeId → List (List GroupDirectoryEntry)

inductive DirectoryEvent where
  | createGroup (connection : Nat) (nodeId : NodeId) (label : String)
  | resumed (connection : Nat)
  | locked (connection : Nat) (targets : List NodeId)

def DirectoryEvent.connection : DirectoryEvent → Nat
  | createGroup connection _ _ => connection
  | resumed connection => connection
  | locked connection _ => connection

namespace DirectorySync

/-- The nodes have received the directory of the tables. -/
def start (tables : GroupTables) : DirectorySync where
  tables := tables
  creations _ := none
  acknowledged := []
  sent _ := [loadGroupDirectoryEntries tables]

def setCreation (state : DirectorySync) (connection : Nat) (creation : Option Creation) :
    DirectorySync :=
  { state with creations := Function.update state.creations connection creation }

def resume (baseAddr mask : Ipv4Addr) (state : DirectorySync) (connection : Nat) :
    Option DirectorySync :=
  match state.creations connection with
  | none => none
  | some (.requested label srcNodeId) =>
      some
        ({ state with tables := state.tables.drawGroupId }.setCreation connection
          (some (.numbered label srcNodeId state.tables.nextGroupId)))
  | some (.numbered label srcNodeId groupId) =>
      match state.tables.insertGroup baseAddr mask label srcNodeId groupId with
      | none => some (state.setCreation connection none)
      | some (tables, group) =>
          some ({ state with tables := tables }.setCreation connection (some (.inserted group)))
  | some (.inserted group) =>
      some
        ({ state with acknowledged := state.acknowledged ++ [group] }.setCreation connection
          (some .answered))
  | some .answered =>
      some (state.setCreation connection (some (.loaded (loadGroupDirectoryEntries state.tables))))
  | some (.loaded _) => none
  | some (.broadcasting _ []) => some (state.setCreation connection none)
  | some (.broadcasting entries (node :: rest)) =>
      some
        ({ state with
            sent := Function.update state.sent node (state.sent node ++ [entries]) }.setCreation
          connection (some (.broadcasting entries rest)))

/-- The map of connected nodes is locked while it is gone through; the nodes that stay connected are
always in it. -/
def lock (connected : Finset NodeId) (state : DirectorySync) (connection : Nat)
    (targets : List NodeId) : Option DirectorySync :=
  match state.creations connection with
  | some (.loaded entries) =>
      if targets.Nodup ∧ connected ⊆ targets.toFinset then
        some (state.setCreation connection (some (.broadcasting entries targets)))
      else none
  | _ => none

/-- `none`: the event does not happen here. -/
def step (connected : Finset NodeId) (baseAddr mask : Ipv4Addr) (state : DirectorySync) :
    DirectoryEvent → Option DirectorySync
  | .createGroup connection nodeId label =>
      if (state.creations connection).isNone then
        some (state.setCreation connection (some (.requested label nodeId)))
      else none
  | .resumed connection => state.resume baseAddr mask connection
  | .locked connection targets => state.lock connected connection targets

end DirectorySync

def directorySync (connected : Finset NodeId) (baseAddr mask : Ipv4Addr) :
    TransitionSystem DirectorySync DirectoryEvent where
  initial state := ∃ tables, state = .start tables
  step state event next := state.step connected baseAddr mask event = some next

namespace DirectorySync

/-! ## What a step can do -/

/-- The ways of a step. The last one leaves tables and nodes alone, and its handling has nothing to
send, before or after. -/
inductive Steps (connected : Finset NodeId) (state : DirectorySync) :
    DirectoryEvent → DirectorySync → Prop
  | inserted (connection : Nat) (tables : GroupTables) (group : Group) :
      (∀ creation ∈ state.creations connection, ∀ node place, ¬creation.Brings node place) →
      tables.groups = state.tables.groups ++ [group] →
        Steps connected state (.resumed connection)
          ({ state with tables := tables }.setCreation connection (some (.inserted group)))
  | answered (connection : Nat) (group : Group) :
      state.creations connection = some (.inserted group) →
        Steps connected state (.resumed connection)
          ({ state with acknowledged := state.acknowledged ++ [group] }.setCreation connection
            (some .answered))
  | loaded (connection : Nat) :
      state.creations connection = some .answered →
        Steps connected state (.resumed connection)
          (state.setCreation connection (some (.loaded (loadGroupDirectoryEntries state.tables))))
  | locked (connection : Nat) (entries : List GroupDirectoryEntry) (targets : List NodeId) :
      state.creations connection = some (.loaded entries) → (∀ node ∈ connected, node ∈ targets) →
        Steps connected state (.locked connection targets)
          (state.setCreation connection (some (.broadcasting entries targets)))
  | sent (connection : Nat) (entries : List GroupDirectoryEntry) (node : NodeId)
      (rest : List NodeId) :
      state.creations connection = some (.broadcasting entries (node :: rest)) →
        Steps connected state (.resumed connection)
          ({ state with
              sent := Function.update state.sent node (state.sent node ++ [entries]) }.setCreation
            connection (some (.broadcasting entries rest)))
  | other (event : DirectoryEvent) (tables : GroupTables) (creation : Option Creation) :
      tables.groups = state.tables.groups →
      (∀ creation ∈ state.creations event.connection, ∀ node place, ¬creation.Brings node place) →
      (∀ later ∈ creation, later.directory = none ∧ later.unanswered = none) →
        Steps connected state event
          ({ state with tables := tables }.setCreation event.connection creation)

theorem resume_steps {connected : Finset NodeId} {baseAddr mask : Ipv4Addr}
    {state next : DirectorySync} {connection : Nat}
    (resumed : state.resume baseAddr mask connection = some next) :
    state.Steps connected (.resumed connection) next := by
  unfold resume at resumed
  cases phase : state.creations connection with
  | none => simp [phase] at resumed
  | some creation =>
    cases creation with
    | requested label srcNodeId =>
      simp only [phase, Option.some.injEq] at resumed
      subst resumed
      apply Steps.other (.resumed connection) state.tables.drawGroupId
      · rfl
      · simp [DirectoryEvent.connection, phase, Creation.Brings]
      · rintro _ ⟨⟩
        exact ⟨rfl, rfl⟩
    | numbered label srcNodeId groupId =>
      have silent : ∀ creation ∈ state.creations connection, ∀ node place,
          ¬creation.Brings node place := by
        simp [phase, Creation.Brings]
      simp only [phase] at resumed
      split at resumed
      · cases resumed
        exact .other (.resumed connection) state.tables none rfl silent (by simp)
      · rename_i tables group inserted
        cases resumed
        exact .inserted connection tables group silent
          (GroupTables.insert_group_appends inserted)
    | inserted group =>
      simp only [phase, Option.some.injEq] at resumed
      subst resumed
      exact .answered connection group phase
    | answered =>
      simp only [phase, Option.some.injEq] at resumed
      subst resumed
      exact .loaded connection phase
    | loaded entries => simp [phase] at resumed
    | broadcasting entries targets =>
      cases targets with
      | nil =>
        simp only [phase, Option.some.injEq] at resumed
        subst resumed
        apply Steps.other (.resumed connection) state.tables none rfl
        · simp [DirectoryEvent.connection, phase, Creation.Brings]
        · simp
      | cons node rest =>
        simp only [phase, Option.some.injEq] at resumed
        subst resumed
        exact .sent connection entries node rest phase

theorem step_cases {connected : Finset NodeId} {baseAddr mask : Ipv4Addr}
    {state next : DirectorySync} {event : DirectoryEvent}
    (stepped : state.step connected baseAddr mask event = some next) :
    state.Steps connected event next := by
  cases event with
  | createGroup connection nodeId label =>
    simp only [step] at stepped
    split at stepped
    · rename_i idle
      cases stepped
      have phase := Option.isNone_iff_eq_none.mp idle
      apply Steps.other (.createGroup connection nodeId label) state.tables _ rfl
      · simp [DirectoryEvent.connection, phase]
      · rintro _ ⟨⟩
        exact ⟨rfl, rfl⟩
    · cases stepped
  | resumed connection => exact resume_steps stepped
  | locked connection targets =>
    simp only [step, lock] at stepped
    split at stepped
    · rename_i entries phase
      split at stepped
      · rename_i fits
        cases stepped
        refine .locked connection entries targets phase ?_
        intro node member
        exact List.mem_toFinset.mp (fits.2 member)
      · cases stepped
    · cases stepped

/-! ## Convergence -/

def Quiet (state : DirectorySync) : Prop := ∀ connection, state.creations connection = none

/-- A directory as it was read at some time: that of the groups up to a place. -/
def Snapshot (tables : GroupTables) (entries : List GroupDirectoryEntry) : Prop :=
  entries.length ≤ tables.groups.length ∧
    entries = loadGroupDirectoryEntries { tables with groups := tables.groups.take entries.length }

/-- Each node that stays connected received the directory of the tables last, holds it, and finds
there each group whose creation was answered. -/
structure Converged (connected : Finset NodeId) (state : DirectorySync) : Prop where
  received : ∀ node ∈ connected,
    (state.sent node).getLast? = some (loadGroupDirectoryEntries state.tables)
  held : ∀ node ∈ connected, lastDirectory ((state.sent node).map .installGroupDirectory) =
    directory (loadGroupDirectoryEntries state.tables)
  acknowledged : ∀ group ∈ state.acknowledged,
    ⟨asUsize group.id, group.groupIp⟩ ∈ loadGroupDirectoryEntries state.tables

def nextSend (state : DirectorySync) : DirectoryEvent → Option (NodeId × List GroupDirectoryEntry)
  | .resumed connection =>
      match state.creations connection with
      | some (.broadcasting entries (node :: _)) => some (node, entries)
      | _ => none
  | _ => none

/-- No node is sent a directory of fewer groups than the one it was sent last. -/
def SendsNoOlder (state : DirectorySync) (event : DirectoryEvent) : Prop :=
  ∀ send ∈ state.nextSend event, ∀ last ∈ (state.sent send.1).getLast?, last.length ≤ send.2.length

/-- What was sent last, and what handlings have read, are directories as they were read, and each
group is in what a node was sent last or in what a handling is still to send it. -/
structure Tracked (connected : Finset NodeId) (state : DirectorySync) : Prop where
  last : ∀ node ∈ connected, ∃ entries, (state.sent node).getLast? = some entries ∧
    Snapshot state.tables entries
  read : ∀ connection, ∀ creation ∈ state.creations connection, ∀ entries ∈ creation.directory,
    Snapshot state.tables entries
  covered : ∀ node ∈ connected, ∀ place < state.tables.groups.length,
    (∃ entries, (state.sent node).getLast? = some entries ∧ place < entries.length) ∨
      ∃ connection, ∃ creation ∈ state.creations connection, creation.Brings node place
  unanswered : ∀ connection, ∀ creation ∈ state.creations connection,
    ∀ group ∈ creation.unanswered, group ∈ state.tables.groups
  acknowledged : ∀ group ∈ state.acknowledged, group ∈ state.tables.groups

theorem entries_length (tables : GroupTables) :
    (loadGroupDirectoryEntries tables).length = tables.groups.length := by
  simp [loadGroupDirectoryEntries, GroupTables.loadGroupDirectory]

theorem snapshot_now {tables later : GroupTables} (same : later.groups = tables.groups) :
    Snapshot later (loadGroupDirectoryEntries tables) := by
  rw [Snapshot, entries_length, same, List.take_length]
  exact ⟨Nat.le_refl _, rfl⟩

/-- A directory that has as many groups as the tables is that of the tables. -/
theorem snapshot_full {tables : GroupTables} {entries : List GroupDirectoryEntry}
    (snapshot : Snapshot tables entries) (full : tables.groups.length ≤ entries.length) :
    entries = loadGroupDirectoryEntries tables := by
  have whole := snapshot.2
  rw [List.take_of_length_le full] at whole
  exact whole

theorem snapshot_appended {tables later : GroupTables} {entries : List GroupDirectoryEntry}
    {more : List Group} (snapshot : Snapshot tables entries)
    (appended : later.groups = tables.groups ++ more) : Snapshot later entries := by
  rcases snapshot with ⟨bounded, taken⟩
  constructor
  · rw [appended, List.length_append]
    omega
  · have same : loadGroupDirectoryEntries { later with groups := later.groups.take entries.length } =
        loadGroupDirectoryEntries { tables with groups := tables.groups.take entries.length } := by
      rw [appended, List.take_append_of_le_length bounded]
      rfl
    rw [same]
    exact taken

theorem last_directory_installs (sent : List (List GroupDirectoryEntry))
    {entries : List GroupDirectoryEntry} (last : sent.getLast? = some entries) :
    lastDirectory (sent.map .installGroupDirectory) = directory entries := by
  rcases List.getLast?_eq_some_iff.mp last with ⟨before, rfl⟩
  rw [List.map_append, last_directory_append]
  rfl

theorem converged_of_quiet {connected : Finset NodeId} {state : DirectorySync}
    (tracked : state.Tracked connected) (quiet : state.Quiet) : state.Converged connected := by
  have received : ∀ node ∈ connected,
      (state.sent node).getLast? = some (loadGroupDirectoryEntries state.tables) := by
    intro node member
    rcases tracked.last node member with ⟨entries, last, snapshot⟩
    rw [last, ← snapshot_full snapshot]
    by_contra short
    rcases tracked.covered node member entries.length (Nat.not_le.mp short) with
      ⟨others, again, longer⟩ | ⟨connection, creation, handled, _⟩
    · rw [last] at again
      cases again
      exact Nat.lt_irrefl _ longer
    · rw [quiet connection] at handled
      cases handled
  refine ⟨received, ?_, ?_⟩
  · intro node member
    exact last_directory_installs _ (received node member)
  · intro group member
    apply List.mem_map_of_mem
    exact List.mem_mergeSort.mpr (tracked.acknowledged group member)

theorem tracked_start (connected : Finset NodeId) (tables : GroupTables) :
    (start tables).Tracked connected where
  last _ _ := ⟨_, rfl, snapshot_now rfl⟩
  read _ _ handled := by cases handled
  covered node _ place below := by
    refine .inl ⟨loadGroupDirectoryEntries tables, rfl, ?_⟩
    rw [entries_length]
    exact below
  unanswered _ _ handled := by cases handled
  acknowledged _ member := by cases member

theorem brings_of_other {state : DirectorySync} {node : NodeId} {place connection : Nat}
    {creation : Option Creation}
    (before : ∃ other, ∃ creation ∈ state.creations other, creation.Brings node place)
    (kept : ∀ earlier ∈ state.creations connection, earlier.Brings node place →
      ∃ later ∈ creation, later.Brings node place) :
    ∃ other, ∃ later ∈ Function.update state.creations connection creation other,
      later.Brings node place := by
  rcases before with ⟨other, earlier, handled, brings⟩
  by_cases own : other = connection
  · subst own
    rcases kept earlier handled brings with ⟨later, member, still⟩
    refine ⟨other, later, ?_, still⟩
    rw [Function.update_self]
    exact member
  · refine ⟨other, earlier, ?_, brings⟩
    rw [Function.update_of_ne own]
    exact handled

theorem handled_after {state : DirectorySync} {connection other : Nat}
    {creation : Option Creation} {handled : Creation}
    (member : handled ∈ Function.update state.creations connection creation other) :
    handled ∈ creation ∨ handled ∈ state.creations other := by
  rw [Function.update_apply] at member
  split_ifs at member with own
  · exact .inl member
  · exact .inr member

theorem tracked_inserted {connected : Finset NodeId} {state : DirectorySync}
    (tracked : state.Tracked connected) {connection : Nat} {tables : GroupTables} {group : Group}
    (silent : ∀ creation ∈ state.creations connection, ∀ node place, ¬creation.Brings node place)
    (appended : tables.groups = state.tables.groups ++ [group]) :
    ({ state with tables := tables }.setCreation connection (some (.inserted group))).Tracked
      connected := by
  have kept : ∀ other ∈ state.tables.groups, other ∈ tables.groups := by
    intro other member
    rw [appended]
    exact List.mem_append_left _ member
  constructor
  case last =>
    intro node member
    rcases tracked.last node member with ⟨entries, last, snapshot⟩
    exact ⟨entries, last, snapshot_appended snapshot appended⟩
  case read =>
    intro other handled member entries read
    rcases handled_after member with own | before
    · cases own
      cases read
    · exact snapshot_appended (tracked.read other handled before entries read) appended
  case covered =>
    intro node member place below
    by_cases early : place < state.tables.groups.length
    · refine (tracked.covered node member place early).imp id ?_
      intro before
      apply brings_of_other before
      intro earlier handled brings
      exact absurd brings (silent earlier handled node place)
    · exact .inr ⟨connection, .inserted group, by simp [setCreation], trivial⟩
  case unanswered =>
    intro other handled member unanswered waiting
    rcases handled_after member with own | before
    · cases own
      cases waiting
      rw [setCreation, appended]
      exact List.mem_append_right _ (List.mem_singleton_self _)
    · exact kept _ (tracked.unanswered other handled before unanswered waiting)
  case acknowledged =>
    intro other member
    exact kept _ (tracked.acknowledged other member)

/-- A step that changes neither the tables nor what nodes were sent, and lets its handling bring all
that it brought. -/
theorem tracked_kept {connected : Finset NodeId} {state : DirectorySync}
    (tracked : state.Tracked connected) {connection : Nat} {tables : GroupTables}
    {acknowledged : List Group} {creation : Option Creation}
    (same : tables.groups = state.tables.groups)
    (answered : ∀ group ∈ acknowledged, group ∈ state.tables.groups)
    (read : ∀ later ∈ creation, ∀ entries ∈ later.directory, Snapshot state.tables entries)
    (unanswered : ∀ later ∈ creation, later.unanswered = none)
    (brings : ∀ earlier ∈ state.creations connection, ∀ node ∈ connected,
      ∀ place < state.tables.groups.length, earlier.Brings node place →
        ∃ later ∈ creation, later.Brings node place) :
    ({ state with tables := tables, acknowledged := acknowledged }.setCreation connection
      creation).Tracked connected := by
  have snapshot : ∀ entries, Snapshot state.tables entries → Snapshot tables entries := by
    intro entries snapshot
    apply @snapshot_appended state.tables tables entries [] snapshot
    rw [same, List.append_nil]
  constructor
  case last =>
    intro node member
    rcases tracked.last node member with ⟨entries, last, taken⟩
    exact ⟨entries, last, snapshot entries taken⟩
  case read =>
    intro other handled member entries loaded
    rcases handled_after member with own | before
    · exact snapshot entries (read handled own entries loaded)
    · exact snapshot entries (tracked.read other handled before entries loaded)
  case covered =>
    intro node member place below
    have early : place < state.tables.groups.length := by
      rw [← same]
      exact below
    refine (tracked.covered node member place early).imp id ?_
    intro before
    apply brings_of_other before
    intro earlier handled brought
    exact brings earlier handled node member place early brought
  case unanswered =>
    intro other handled member group waiting
    rw [setCreation, same]
    rcases handled_after member with own | before
    · rw [unanswered handled own] at waiting
      cases waiting
    · exact tracked.unanswered other handled before group waiting
  case acknowledged =>
    intro group member
    rw [setCreation, same]
    exact answered group member

theorem tracked_sent {connected : Finset NodeId} {state : DirectorySync}
    (tracked : state.Tracked connected) {connection : Nat} {entries : List GroupDirectoryEntry}
    {node : NodeId} {rest : List NodeId}
    (phase : state.creations connection = some (.broadcasting entries (node :: rest)))
    (newest : ∀ last, (state.sent node).getLast? = some last → last.length ≤ entries.length) :
    ({ state with sent := Function.update state.sent node (state.sent node ++ [entries]) }.setCreation
      connection (some (.broadcasting entries rest))).Tracked connected := by
  have snapshot : Snapshot state.tables entries :=
    tracked.read connection (.broadcasting entries (node :: rest)) phase entries rfl
  have lastHere : (Function.update state.sent node (state.sent node ++ [entries]) node).getLast? =
      some entries := by
    rw [Function.update_self, List.getLast?_concat]
  constructor
  case last =>
    intro other member
    by_cases own : other = node
    · subst own
      exact ⟨entries, lastHere, snapshot⟩
    · rcases tracked.last other member with ⟨before, last, taken⟩
      refine ⟨before, ?_, taken⟩
      simp only [setCreation, Function.update_of_ne own]
      exact last
  case read =>
    intro other handled member loaded read
    rcases handled_after member with own | before
    · cases own
      cases read
      exact snapshot
    · exact tracked.read other handled before loaded read
  case covered =>
    intro other member place below
    have brought : ∀ earlier ∈ state.creations connection, earlier.Brings other place →
        other ≠ node → ∃ later ∈ some (Creation.broadcasting entries rest), later.Brings other place := by
      intro earlier handled brings apart
      rw [phase] at handled
      cases handled
      rcases brings with ⟨target, inside⟩
      exact ⟨_, rfl, (List.mem_cons.mp target).resolve_left apart, inside⟩
    by_cases own : other = node
    · subst own
      by_cases inside : place < entries.length
      · exact .inl ⟨entries, lastHere, inside⟩
      · rcases tracked.covered other member place below with ⟨last, held, longer⟩ | before
        · have := newest last held
          omega
        · right
          apply brings_of_other before
          intro earlier handled brings
          rw [phase] at handled
          cases handled
          exact absurd brings.2 inside
    · rcases tracked.covered other member place below with ⟨last, held, longer⟩ | before
      · refine .inl ⟨last, ?_, longer⟩
        simp only [setCreation, Function.update_of_ne own]
        exact held
      · right
        apply brings_of_other before
        intro earlier handled brings
        exact brought earlier handled brings own
  case unanswered =>
    intro other handled member group waiting
    rcases handled_after member with own | before
    · cases own
      cases waiting
    · exact tracked.unanswered other handled before group waiting
  case acknowledged => exact tracked.acknowledged

theorem tracked_step {connected : Finset NodeId} {state next : DirectorySync}
    {event : DirectoryEvent} (tracked : state.Tracked connected)
    (guarded : state.SendsNoOlder event) (step : state.Steps connected event next) :
    next.Tracked connected := by
  cases step with
  | inserted connection tables group silent appended =>
    exact tracked_inserted tracked silent appended
  | answered connection group phase =>
    apply tracked_kept tracked rfl
    · intro other member
      rcases List.mem_append.mp member with before | new
      · exact tracked.acknowledged other before
      · rw [List.mem_singleton.mp new]
        exact tracked.unanswered connection _ phase group rfl
    · rintro _ ⟨⟩ entries ⟨⟩
    · rintro _ ⟨⟩
      rfl
    · intro earlier handled node member place below brings
      exact ⟨.answered, rfl, trivial⟩
  | loaded connection phase =>
    apply tracked_kept tracked rfl tracked.acknowledged
    · rintro _ ⟨⟩ entries ⟨⟩
      exact snapshot_now rfl
    · rintro _ ⟨⟩
      rfl
    · intro earlier handled node member place below brings
      refine ⟨_, rfl, ?_⟩
      rw [Creation.Brings, entries_length]
      exact below
  | locked connection entries targets phase everyone =>
    apply tracked_kept tracked rfl tracked.acknowledged
    · rintro _ ⟨⟩ read ⟨⟩
      exact tracked.read connection _ phase entries rfl
    · rintro _ ⟨⟩
      rfl
    · intro earlier handled node member place below brings
      rw [phase] at handled
      cases handled
      exact ⟨_, rfl, everyone node member, brings⟩
  | sent connection entries node rest phase =>
    have sends : (node, entries) ∈ state.nextSend (.resumed connection) := by
      rw [nextSend, phase]
      rfl
    exact tracked_sent tracked phase (guarded _ sends)
  | other event tables creation same silent nothing =>
    apply tracked_kept tracked same tracked.acknowledged
    · intro later member entries read
      rw [(nothing later member).1] at read
      cases read
    · intro later member
      exact (nothing later member).2
    · intro earlier handled node member place below brings
      exact absurd brings (silent earlier handled node place)

end DirectorySync

/-- Once all requests are handled, in any order in which no node is sent an older directory after a
newer one, every node that stayed connected has the directory of the tables. -/
theorem directories_converge {connected : Finset NodeId} {baseAddr mask : Ipv4Addr}
    {state : DirectorySync}
    (reachable : ((directorySync connected baseAddr mask).restrict
      DirectorySync.SendsNoOlder).Reachable state) (quiet : state.Quiet) :
    state.Converged connected := by
  apply DirectorySync.converged_of_quiet _ quiet
  apply TransitionSystem.invariant_of_reachable (motive := DirectorySync.Tracked connected) _ _
    reachable
  · rintro _ ⟨tables, rfl⟩
    exact DirectorySync.tracked_start connected tables
  · rintro before event after tracked ⟨guarded, step⟩
    exact DirectorySync.tracked_step tracked guarded (DirectorySync.step_cases step)

/-! ### One request -/

namespace DirectorySync

theorem reachable_guarded {connected : Finset NodeId} {baseAddr mask : Ipv4Addr}
    {state next : DirectorySync} (event : DirectoryEvent)
    (reachable : ((directorySync connected baseAddr mask).restrict SendsNoOlder).Reachable state)
    (guarded : state.SendsNoOlder event)
    (stepped : state.step connected baseAddr mask event = some next) :
    ((directorySync connected baseAddr mask).restrict SendsNoOlder).Reachable next :=
  reachable.step ⟨guarded, stepped⟩

theorem silent_guarded {state : DirectorySync} {event : DirectoryEvent}
    (silent : state.nextSend event = none) : state.SendsNoOlder event := by
  intro send member
  rw [silent] at member
  cases member

end DirectorySync

/-- A node creates a group and is sent the directory that has it. -/
theorem first_group_converges : ∃ state : DirectorySync,
    state.acknowledged.map Group.label = ["first"] ∧ state.Converged {1} := by
  have started : ((directorySync {1} 0xEF000000 0xFF000000).restrict
      DirectorySync.SendsNoOlder).Reachable (.start .empty) :=
    TransitionSystem.reachable_of_initial ⟨.empty, rfl⟩
  have requested := DirectorySync.reachable_guarded (.createGroup 1 1 "first") started
    (DirectorySync.silent_guarded rfl) rfl
  have numbered := DirectorySync.reachable_guarded (.resumed 1) requested
    (DirectorySync.silent_guarded rfl) rfl
  have inserted := DirectorySync.reachable_guarded (.resumed 1) numbered
    (DirectorySync.silent_guarded rfl) rfl
  have answered := DirectorySync.reachable_guarded (.resumed 1) inserted
    (DirectorySync.silent_guarded rfl) rfl
  have loaded := DirectorySync.reachable_guarded (.resumed 1) answered
    (DirectorySync.silent_guarded rfl) rfl
  have locked := DirectorySync.reachable_guarded (.locked 1 [1]) loaded
    (DirectorySync.silent_guarded rfl) rfl
  have sent := DirectorySync.reachable_guarded (.resumed 1) locked
    (by
      rintro _ ⟨⟩ _ ⟨⟩
      have none : (loadGroupDirectoryEntries .empty).length = 0 := DirectorySync.entries_length _
      exact Nat.le_trans (Nat.le_of_eq none) (Nat.zero_le _)) rfl
  have finished := DirectorySync.reachable_guarded (.resumed 1) sent
    (DirectorySync.silent_guarded rfl) rfl
  refine ⟨_, ?_, directories_converge finished ?_⟩
  · rfl
  · intro connection
    simp only [DirectorySync.setCreation, DirectorySync.start, Function.update_apply]
    split_ifs <;> rfl

/-! ### Two requests -/

/-- A request up to the point where its handling has read the directory. -/
def loadingEvents (connection : Nat) (nodeId : NodeId) (label : String) : List DirectoryEvent :=
  .createGroup connection nodeId label :: List.replicate 4 (.resumed connection)

def sendingEvents (connection : Nat) : List DirectoryEvent :=
  .locked connection [1, 2] :: List.replicate 3 (.resumed connection)

/-- The first request sends what it read after the second one has sent more: node 1 is left without
the second group. -/
theorem older_directory_sent_last : ∃ state : DirectorySync,
    (directorySync {1, 2} 0xEF000000 0xFF000000).Reachable state ∧ state.Quiet ∧
      state.acknowledged.map Group.label = ["first", "second"] ∧
      (state.sent 1).getLast?.map List.length = some 1 ∧ ¬state.Converged {1, 2} := by
  have evaluated : ∃ state outputs, TransitionSystem.execute (fun state event =>
      (DirectorySync.step {1, 2} 0xEF000000 0xFF000000 state event).map fun next => (next, ()))
        (.start .empty)
        (loadingEvents 1 1 "first" ++ loadingEvents 2 2 "second" ++ sendingEvents 2 ++
          sendingEvents 1) = some (state, outputs) ∧
      state.Quiet ∧ state.acknowledged.map Group.label = ["first", "second"] ∧
      state.tables.groups.length = 2 ∧ (state.sent 1).getLast?.map List.length = some 1 := by
    refine ⟨_, _, rfl, ?_, rfl, rfl, ?_⟩
    · intro connection
      simp only [DirectorySync.setCreation, DirectorySync.start, Function.update_apply]
      split_ifs <;> rfl
    · exact congrArg some (DirectorySync.entries_length _)
  rcases evaluated with ⟨state, outputs, executed, quiet, acknowledged, groups, last⟩
  have run := @TransitionSystem.run_of_silent_execute _ _
    (directorySync {1, 2} 0xEF000000 0xFF000000) _ (fun _ _ _ stepped => stepped) _ _ _ _ executed
  refine ⟨state, ⟨_, _, ⟨.empty, rfl⟩, run⟩, quiet, acknowledged, last, ?_⟩
  intro converged
  rw [converged.received 1 (by decide), Option.map_some, DirectorySync.entries_length, groups] at last
  cases last

end Nextmini.Controller
