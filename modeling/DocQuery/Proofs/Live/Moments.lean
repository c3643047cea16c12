/-
This file takes what goes on in stores apart into single steps.

A delivery may lead to writes, and these to further deliveries, before it has ended. So at each
moment several passes can be under way, each with the listeners that it still has in line, and with
a delivery on top of each but perhaps the last. A moment is this stack, innermost first, together
with the state. From moment to moment one thing happens: an operation begins, where nothing is under
way or inside a delivery; a pass tells its next listener, skips it, or ends; a delivery returns or
raises. What is done inside a delivery is left open, so listeners may do anything, and may go on
after a failure or not.

Carrying out an action on stores and their listeners is a course of such steps, to any depth.
-/

import DocQuery.Proofs.Live.Steps
import Mathlib.Logic.Relation

namespace DocQuery

/-! ### Actions on stores -/

mutual
/-- An action on stores and their own listeners. -/
def Action.IsDirect : Action → Prop
  | .write _ _ _ | .remove _ _ | .report _ _ _ | .closeStore _ | .describe _ => True
  | .listen _ _ _ reactions => AreDirect reactions
  | .unlisten _ => True
  | _ => False
/-- Reactions that raise or act on stores and their own listeners. -/
def AreDirect : List Reaction → Prop
  | [] => True
  | reaction :: rest => reaction.IsDirect ∧ AreDirect rest
/-- A reaction that raises or acts on stores and their own listeners. -/
def Reaction.IsDirect : Reaction → Prop
  | .raise _ _ => True
  | .act _ action => action.IsDirect
end

/-- What a listener on a reference is told of how it stands, if it is told anything. -/
def Store.news (reference : Reference) (store : Store Callback) : Except Failure Update :=
  match store.read reference with
  | .ok snapshot => .ok (.snapshot snapshot)
  | .error failure => if failure.isStore then .ok (.failure failure) else .error failure

namespace World

/-- The state in which a recipient has just been called: the delivery is counted, and kept if what
is told can be looked at. -/
def called (recipient : Nat) (occasion : Occasion) (update : Update) (world : World) : World :=
  match update.examine with
  | .error _ => world.countDelivery recipient
  | .ok _ => world.tell recipient occasion update

end World

/-! ### Moments -/

/-- Something that is under way. -/
inductive Frame
  /-- A listener was called and has not returned. -/
  | delivery
  /-- A pass that follows a write, with the listeners that it has in line. -/
  | write (store : Text) (line : List (Nat × Listener Callback))
  /-- A pass that reports a failure, with the listeners that it has in line. -/
  | report (failure : Failure) (line : List (Nat × Listener Callback))
  /-- A listener is being installed, under a name. -/
  | install (label store : Text) (id : Nat)

/-- Whether an operation can begin: nothing is under way, or a delivery is innermost. -/
def IsFree : List Frame → Prop
  | [] | .delivery :: _ => True
  | _ => False

/-- What is under way, innermost first, and the state. -/
structure Moment where
  frames : List Frame
  world : World

/-- How an operation begins: what is under way with it, and the state. -/
inductive Begins (world : World) : List Frame → World → Prop
  | write {name : Text} {store : Store Callback} (there : world.store? name = some store)
      (segments : Segments) (entries : Entries) :
      Begins world [.write name (store.concerned segments)]
        (world.updateStore name (Store.write segments entries))
  | remove {name : Text} {store : Store Callback} (there : world.store? name = some store)
      (segments : Segments) :
      Begins world [.write name (store.concerned segments)]
        (world.updateStore name (Store.remove segments))
  | report {name : Text} {store : Store Callback} (there : world.store? name = some store)
      (segments : Segments) (failure : Failure) :
      Begins world [.report failure (store.listenersAt segments)] world
  | close (name : Text) : Begins world [] (world.updateStore name Store.close)
  /-- A new listener is registered and called for the first time. -/
  | listen {label name : Text} {store : Store Callback} {reactions : List Reaction}
      {reference : Reference} {snapshot : Snapshot} (there : world.store? name = some store)
      (accepted : store.acceptListener reference = .ok snapshot)
      (direct : AreDirect reactions) :
      Begins world [.delivery, .install label name store.nextListener]
        (((world.addRecipient label reactions).2.updateStore name
          (Store.register ⟨reference, .recipient world.recipients.length⟩)).called
            world.recipients.length .standing (.snapshot snapshot))
  /-- A new listener is not accepted. -/
  | refuse (label : Text) {reactions : List Reaction} (direct : AreDirect reactions) :
      Begins world [] (world.addRecipient label reactions).2
  | unlisten (label : Text) : Begins world [] (world.unlisten label).2
  | remark (notices : List Notice) (cutShort : Bool) :
      Begins world [] { world with notices := notices, cutShort := cutShort }

/-- What happens from one moment to the next. -/
inductive Step : Moment → Moment → Prop
  | begin {frames opened : List Frame} {world after : World} (free : IsFree frames)
      (begins : Begins world opened after) : Step ⟨frames, world⟩ ⟨opened ++ frames, after⟩
  /-- The next listener of a pass is told how its reference stands. -/
  | told {name : Text} {id recipient : Nat} {reference : Reference}
      {line : List (Nat × Listener Callback)} {frames : List Frame} {world : World}
      {store : Store Callback} {update : Update} (there : world.store? name = some store)
      (registered : store.isRegistered id = true) (news : store.news reference = .ok update) :
      Step ⟨.write name ((id, ⟨reference, .recipient recipient⟩) :: line) :: frames, world⟩
        ⟨.delivery :: .write name line :: frames, world.called recipient .standing update⟩
  /-- The next listener of a pass was removed. -/
  | skip {name : Text} {id : Nat} {listener : Listener Callback}
      {line : List (Nat × Listener Callback)} {frames : List Frame} {world : World}
      (removed : world.isRegistered name id = false) :
      Step ⟨.write name ((id, listener) :: line) :: frames, world⟩
        ⟨.write name line :: frames, world⟩
  /-- The reference of the next listener cannot be read, which ends the pass. -/
  | broken {name : Text} {id : Nat} {listener : Listener Callback}
      {line : List (Nat × Listener Callback)} {frames : List Frame} {world : World}
      {store : Store Callback} {failure : Failure} (there : world.store? name = some store)
      (registered : store.isRegistered id = true)
      (news : store.news listener.reference = .error failure) :
      Step ⟨.write name ((id, listener) :: line) :: frames, world⟩ ⟨frames, world⟩
  | written {name : Text} {frames : List Frame} {world : World} :
      Step ⟨.write name [] :: frames, world⟩ ⟨frames, world⟩
  /-- The next listener of a pass is told of a failure, whether or not it was removed. -/
  | reported {failure : Failure} {id recipient : Nat} {reference : Reference}
      {line : List (Nat × Listener Callback)} {frames : List Frame} {world : World} :
      Step ⟨.report failure ((id, ⟨reference, .recipient recipient⟩) :: line) :: frames, world⟩
        ⟨.delivery :: .report failure line :: frames,
          world.called recipient .report (.failure failure)⟩
  | ended {failure : Failure} {frames : List Frame} {world : World} :
      Step ⟨.report failure [] :: frames, world⟩ ⟨frames, world⟩
  | returned {frames : List Frame} {world : World} :
      Step ⟨.delivery :: frames, world⟩ ⟨frames, world⟩
  /-- A listener raises, which ends what it was called in. -/
  | raised {frame : Frame} {frames : List Frame} {world : World} :
      Step ⟨.delivery :: frame :: frames, world⟩ ⟨frames, world⟩
  | installed {label name : Text} {id : Nat} {frames : List Frame} {world : World} :
      Step ⟨.install label name id :: frames, world⟩
        ⟨frames, { world with listenerNames := (label, name, id) :: world.listenerNames }⟩

/-- From one moment to a later one. -/
abbrev Course : Moment → Moment → Prop := Relation.ReflTransGen Step

/-! ### How states grow -/

namespace World

/-- A state grows to a later one: recipients are added, ids are taken, and every listener was there
before, or it has a new id and a new recipient. -/
structure Grows (world later : World) : Prop where
  recipients : world.recipients.length ≤ later.recipients.length
  stores : ∀ {name after}, later.store? name = some after → ∃ store,
    world.store? name = some store ∧ store.nextListener ≤ after.nextListener ∧
      ∀ entry ∈ after.listeners, entry ∈ store.listeners ∨ store.nextListener ≤ entry.1 ∧
        ∀ recipient, entry.2.callback = .recipient recipient →
          world.recipients.length ≤ recipient

theorem Grows.refl (world : World) : world.Grows world :=
  ⟨Nat.le_refl _, fun {_ after} there => ⟨after, there, Nat.le_refl _, fun _ => .inl⟩⟩

theorem Grows.trans {first second third : World} (grows : first.Grows second)
    (further : second.Grows third) : first.Grows third := by
  refine ⟨Nat.le_trans grows.recipients further.recipients, fun {name after} there => ?_⟩
  obtain ⟨middle, known, more, listeners⟩ := further.stores there
  obtain ⟨store, found, fewer, earlier⟩ := grows.stores known
  refine ⟨store, found, Nat.le_trans fewer more, fun entry member => ?_⟩
  rcases listeners entry member with old | ⟨new, apart⟩
  · exact earlier entry old
  · exact .inr ⟨Nat.le_trans fewer new, fun recipient same =>
      Nat.le_trans grows.recipients (apart recipient same)⟩

theorem Grows.of_stores_eq {world later : World} (stores : later.stores = world.stores)
    (recipients : world.recipients.length ≤ later.recipients.length) : world.Grows later := by
  refine ⟨recipients, fun {name after} there => ⟨after, ?_, Nat.le_refl _, fun _ => .inl⟩⟩
  rwa [store?, stores] at there

/-- A change of a store that adds no listener. -/
theorem grows_updateStore {change : Store Callback → Store Callback} (shrinks : Shrinks change)
    (name : Text) (world : World) : world.Grows (world.updateStore name change) := by
  obtain ⟨stores, same⟩ := exists_updateStore name change world
  refine ⟨Nat.le_of_eq (by rw [same]), fun there => ?_⟩
  obtain ⟨store, found, ⟨_, rfl⟩ | ⟨_, rfl⟩⟩ := store?_updateStore_cases there
  · have taken := Nat.le_of_eq (shrinks.nextListener store).symm
    exact ⟨store, found, taken, fun entry member =>
      .inl (shrinks.listeners store entry member)⟩
  · exact ⟨_, found, Nat.le_refl _, fun _ => .inl⟩

theorem grows_called (recipient : Nat) (occasion : Occasion) (update : Update) (world : World) :
    world.Grows (world.called recipient occasion update) := by
  have counted : world.Grows (world.countDelivery recipient) :=
    .of_stores_eq rfl (Nat.le_of_eq (List.length_modify ..).symm)
  rw [called]
  split
  · exact counted
  · rw [tell]
    split
    · exact .refl world
    · exact .of_stores_eq rfl counted.recipients

theorem grows_register (name label : Text) (reactions : List Reaction) (reference : Reference)
    (world : World) :
    world.Grows ((world.addRecipient label reactions).2.updateStore name
      (Store.register ⟨reference, .recipient world.recipients.length⟩)) := by
  obtain ⟨stores, same⟩ := exists_updateStore name
    (Store.register ⟨reference, .recipient world.recipients.length⟩)
    (world.addRecipient label reactions).2
  refine ⟨?_, fun known => ?_⟩
  · rw [same, addRecipient, List.length_append]
    exact Nat.le_add_right _ _
  · obtain ⟨found, before, grown, cases⟩ := register_cases known
    refine ⟨found, before, grown, fun entry member => (cases entry member).imp_right ?_⟩
    rintro ⟨_, rfl, _⟩
    refine ⟨Nat.le_refl _, fun recipient equal => ?_⟩
    exact Nat.le_of_eq (Callback.recipient.inj equal)

theorem grows_unlisten (label : Text) (world : World) : world.Grows (world.unlisten label).2 := by
  rw [unlisten]
  split
  · exact .refl world
  · exact grows_updateStore (shrinks_unregister _) _ world

end World

theorem Begins.grows {world after : World} {opened : List Frame}
    (begins : Begins world opened after) : world.Grows after := by
  cases begins with
  | write there segments entries =>
    exact World.grows_updateStore (World.shrinks_write segments entries) _ world
  | remove there segments => exact World.grows_updateStore (World.shrinks_remove segments) _ world
  | report there segments failure => exact .refl world
  | close name => exact World.grows_updateStore World.shrinks_close name world
  | listen there accepted direct =>
    exact (World.grows_register _ _ _ _ world).trans (World.grows_called _ _ _ _)
  | refuse label direct =>
    refine .of_stores_eq rfl ?_
    rw [World.addRecipient, List.length_append]
    exact Nat.le_add_right _ _
  | unlisten label => exact World.grows_unlisten label world
  | remark notices cutShort => exact .of_stores_eq rfl (Nat.le_refl _)

theorem Step.grows {moment later : Moment} (step : Step moment later) :
    moment.world.Grows later.world := by
  cases step with
  | begin _ begins => exact begins.grows
  | told _ _ _ => exact World.grows_called _ _ _ _
  | reported => exact World.grows_called _ .report (.failure _) _
  | installed => exact .of_stores_eq rfl (Nat.le_refl _)
  | _ => exact .refl _

/-! ### What every moment keeps -/

namespace World

/-- The callbacks of listeners are recipients that are there. -/
def HasLine (line : List (Nat × Listener Callback)) (world : World) : Prop :=
  ∀ entry ∈ line, ∃ recipient, entry.2.callback = .recipient recipient ∧
    recipient < world.recipients.length

/-- The ids of listeners are taken in a store, and stand for no others there. -/
def Knows (name : Text) (line : List (Nat × Listener Callback)) (world : World) : Prop :=
  ∀ {store}, world.store? name = some store → ∀ entry ∈ line, entry.1 < store.nextListener ∧
    ∀ listener, (entry.1, listener) ∈ store.listeners → listener = entry.2

variable {world later : World}

theorem Grows.hasLine (grows : world.Grows later) {line : List (Nat × Listener Callback)}
    (has : world.HasLine line) : later.HasLine line := by
  intro entry member
  obtain ⟨recipient, callback, there⟩ := has entry member
  exact ⟨recipient, callback, Nat.lt_of_lt_of_le there grows.recipients⟩

theorem Grows.knows (grows : world.Grows later) {name : Text}
    {line : List (Nat × Listener Callback)} (knows : world.Knows name line) :
    later.Knows name line := by
  intro after there entry member
  obtain ⟨store, found, more, listeners⟩ := grows.stores there
  obtain ⟨taken, single⟩ := knows found entry member
  refine ⟨Nat.lt_of_lt_of_le taken more, fun listener known => ?_⟩
  rcases listeners _ known with old | ⟨new, _⟩
  · exact single listener old
  · exact absurd (Nat.lt_of_lt_of_le taken new) (Nat.lt_irrefl _)

/-- A state of stores whose listeners are all direct: their callbacks are recipients, and no two of
them have the same id in a store, or the same recipient anywhere. -/
structure Orderly (world : World) : Prop where
  scripts : ∀ recipient ∈ world.recipients, AreDirect recipient.reactions
  line : ∀ {name store}, world.store? name = some store → world.HasLine store.listeners
  known : ∀ {name store}, world.store? name = some store → world.Knows name store.listeners
  apart : ∀ {name other store second}, world.store? name = some store →
    world.store? other = some second → ∀ entry ∈ store.listeners, ∀ rival ∈ second.listeners,
      entry.2.callback = rival.2.callback → name = other ∧ entry.1 = rival.1

namespace Orderly

/-- A later state with no more listeners is in order. -/
theorem of_fewer (orderly : world.Orderly) (grows : world.Grows later)
    (scripts : ∀ recipient ∈ later.recipients, AreDirect recipient.reactions)
    (fewer : ∀ {name after}, later.store? name = some after → ∃ store,
      world.store? name = some store ∧ after.listeners ⊆ store.listeners) : later.Orderly where
  scripts := scripts
  line there entry member := by
    obtain ⟨store, found, subset⟩ := fewer there
    exact grows.hasLine (orderly.line found) entry (subset member)
  known there _ asked entry member := by
    obtain ⟨store, found, subset⟩ := fewer there
    exact grows.knows (orderly.known found) asked entry (subset member)
  apart there otherThere entry member rival rivalMember same := by
    obtain ⟨store, found, subset⟩ := fewer there
    obtain ⟨second, otherFound, otherSubset⟩ := fewer otherThere
    exact orderly.apart found otherFound entry (subset member) rival (otherSubset rivalMember) same

theorem of_stores_eq (orderly : world.Orderly) (stores : later.stores = world.stores)
    (recipients : world.recipients.length ≤ later.recipients.length)
    (scripts : ∀ recipient ∈ later.recipients, AreDirect recipient.reactions) : later.Orderly := by
  refine orderly.of_fewer (.of_stores_eq stores recipients) scripts fun {name after} there => ?_
  rw [store?, stores] at there
  exact ⟨after, there, List.Subset.refl _⟩

theorem updateStore (orderly : world.Orderly) {change : Store Callback → Store Callback}
    (shrinks : Shrinks change) (name : Text) : (world.updateStore name change).Orderly := by
  obtain ⟨stores, same⟩ := exists_updateStore name change world
  refine orderly.of_fewer (grows_updateStore shrinks name world) ?_ fun there => ?_
  · rw [same]
    exact orderly.scripts
  · obtain ⟨store, found, ⟨_, rfl⟩ | ⟨_, rfl⟩⟩ := store?_updateStore_cases there
    · exact ⟨store, found, shrinks.listeners store⟩
    · exact ⟨_, found, List.Subset.refl _⟩

theorem countDelivery (orderly : world.Orderly) (recipient : Nat) :
    (world.countDelivery recipient).Orderly := by
  refine orderly.of_stores_eq rfl (Nat.le_of_eq (List.length_modify ..).symm) fun found member => ?_
  obtain ⟨index, known⟩ := List.getElem?_of_mem member
  rw [World.countDelivery, List.getElem?_modify] at known
  obtain ⟨before, there, rfl⟩ := Option.map_eq_some_iff.mp known
  have direct := orderly.scripts before (List.mem_of_getElem? there)
  split <;> exact direct

theorem called (orderly : world.Orderly) (recipient : Nat) (occasion : Occasion)
    (update : Update) : (world.called recipient occasion update).Orderly := by
  have counted := orderly.countDelivery recipient
  rw [World.called]
  split
  · exact counted
  · rw [tell]
    split
    · exact orderly
    · exact counted.of_stores_eq rfl (Nat.le_refl _) counted.scripts

theorem addRecipient (orderly : world.Orderly) (label : Text) {reactions : List Reaction}
    (direct : AreDirect reactions) : (world.addRecipient label reactions).2.Orderly := by
  refine orderly.of_stores_eq rfl ?_ fun recipient member => ?_
  · rw [World.addRecipient, List.length_append]
    exact Nat.le_add_right _ _
  · rcases List.mem_append.mp member with known | new
    · exact orderly.scripts recipient known
    · rw [List.mem_singleton.mp new]
      exact direct

theorem register (orderly : world.Orderly) (name label : Text) {reactions : List Reaction}
    (direct : AreDirect reactions) (reference : Reference) :
    ((world.addRecipient label reactions).2.updateStore name
      (Store.register ⟨reference, .recipient world.recipients.length⟩)).Orderly := by
  have grows := grows_register name label reactions reference world
  have added := orderly.addRecipient label direct
  obtain ⟨stores, same⟩ := exists_updateStore name
    (Store.register ⟨reference, .recipient world.recipients.length⟩)
    (world.addRecipient label reactions).2
  have length : ((world.addRecipient label reactions).2.updateStore name
      (Store.register ⟨reference, .recipient world.recipients.length⟩)).recipients.length =
        world.recipients.length + 1 := by
    rw [same, World.addRecipient, List.length_append, List.length_singleton]
  -- Nobody had the new recipient as a callback before.
  have unused {other : Text} {store : Store Callback} (found : world.store? other = some store)
      {entry : Nat × Listener Callback} (member : entry ∈ store.listeners) :
      entry.2.callback ≠ .recipient world.recipients.length := by
    intro equal
    obtain ⟨recipient, callback, there⟩ := orderly.line found entry member
    rw [equal] at callback
    exact Nat.lt_irrefl _ (Callback.recipient.inj callback ▸ there)
  refine ⟨?_, fun there entry member => ?_, fun {other} after there store asked entry member => ?_,
    fun there otherThere entry member rival rivalMember equal => ?_⟩
  · rw [same]
    exact added.scripts
  · obtain ⟨store, found, _, cases⟩ := register_cases there
    rcases cases entry member with old | ⟨_, rfl, _⟩
    · exact grows.hasLine (orderly.line found) entry old
    · exact ⟨_, rfl, length ▸ Nat.lt_succ_self _⟩
  · obtain rfl := Option.some.inj (there.symm.trans asked)
    obtain ⟨store, found, _, cases⟩ := register_cases there
    rcases cases entry member with old | ⟨_, rfl, next⟩
    · exact grows.knows (orderly.known found) there entry old
    · refine ⟨next ▸ Nat.lt_succ_self _, fun listener known => ?_⟩
      rcases cases _ known with earlier | ⟨_, new, _⟩
      · exact absurd (orderly.known found found _ earlier).1 (Nat.lt_irrefl _)
      · exact (Prod.mk.inj new).2
  · obtain ⟨store, found, _, cases⟩ := register_cases there
    obtain ⟨second, otherFound, _, otherCases⟩ := register_cases otherThere
    rcases cases entry member with old | ⟨rfl, rfl, _⟩
    · rcases otherCases rival rivalMember with rivalOld | ⟨_, rfl, _⟩
      · exact orderly.apart found otherFound entry old rival rivalOld equal
      · exact absurd equal (unused found old)
    · rcases otherCases rival rivalMember with rivalOld | ⟨rfl, rfl, _⟩
      · exact absurd equal.symm (unused otherFound rivalOld)
      · obtain rfl := Option.some.inj (found.symm.trans otherFound)
        exact ⟨rfl, rfl⟩

theorem unlisten (orderly : world.Orderly) (label : Text) : (world.unlisten label).2.Orderly := by
  rw [World.unlisten]
  split
  · exact orderly
  · exact orderly.updateStore (shrinks_unregister _) _

end Orderly

theorem orderly_ofStores {mode : BuildMode} {stores : List (Text × Store Callback)}
    (unheard : ∀ entry ∈ stores, entry.2.listeners = []) : (ofStores mode stores).Orderly := by
  have none {name : Text} {store : Store Callback} {entry : Nat × Listener Callback}
      (there : (ofStores mode stores).store? name = some store) : entry ∉ store.listeners := by
    rw [listeners_ofStores unheard there]
    exact List.not_mem_nil
  exact ⟨fun _ member => absurd member List.not_mem_nil,
    fun there _ member => absurd member (none there),
    fun there _ _ _ member => absurd member (none there),
    fun there _ _ member => absurd member (none there)⟩

end World

/-- What every moment keeps: its state is in order, and passes have listeners in line that were
registered once. -/
structure Moment.Coherent (moment : Moment) : Prop where
  world : moment.world.Orderly
  writing : ∀ {name line}, .write name line ∈ moment.frames →
    moment.world.HasLine line ∧ moment.world.Knows name line
  reporting : ∀ {failure line}, .report failure line ∈ moment.frames → moment.world.HasLine line

theorem Begins.orderly {world after : World} {opened : List Frame}
    (begins : Begins world opened after) (orderly : world.Orderly) : after.Orderly := by
  cases begins with
  | write there segments entries => exact orderly.updateStore (World.shrinks_write _ _) _
  | remove there segments => exact orderly.updateStore (World.shrinks_remove _) _
  | report there segments failure => exact orderly
  | close name => exact orderly.updateStore World.shrinks_close name
  | listen there accepted direct => exact (orderly.register _ _ direct _).called _ _ _
  | refuse label direct => exact orderly.addRecipient label direct
  | unlisten label => exact orderly.unlisten label
  | remark notices cutShort => exact orderly.of_stores_eq rfl (Nat.le_refl _) orderly.scripts

namespace Moment.Coherent

variable {frames : List Frame} {world : World}

/-- What is under way stays in order while the state grows. -/
theorem regrow (coherent : (Moment.mk frames world).Coherent) {later : World}
    (orderly : later.Orderly) (grows : world.Grows later) : (Moment.mk frames later).Coherent := by
  refine ⟨orderly, fun member => ?_, fun member => grows.hasLine (coherent.reporting member)⟩
  obtain ⟨has, knows⟩ := coherent.writing member
  exact ⟨grows.hasLine has, grows.knows knows⟩

/-- What is under way without what is innermost. -/
theorem pop {frame : Frame} (coherent : (Moment.mk (frame :: frames) world).Coherent) :
    (Moment.mk frames world).Coherent :=
  ⟨coherent.world, fun member => coherent.writing (List.mem_cons_of_mem _ member),
    fun member => coherent.reporting (List.mem_cons_of_mem _ member)⟩

theorem push_write (coherent : (Moment.mk frames world).Coherent) {name : Text}
    {line : List (Nat × Listener Callback)} (has : world.HasLine line)
    (knows : world.Knows name line) : (Moment.mk (.write name line :: frames) world).Coherent := by
  refine ⟨coherent.world, fun member => ?_, fun member => ?_⟩
  · rcases List.mem_cons.mp member with same | deeper
    · cases same
      exact ⟨has, knows⟩
    · exact coherent.writing deeper
  · exact coherent.reporting ((List.mem_cons.mp member).resolve_left nofun)

theorem push_report (coherent : (Moment.mk frames world).Coherent) {failure : Failure}
    {line : List (Nat × Listener Callback)} (has : world.HasLine line) :
    (Moment.mk (.report failure line :: frames) world).Coherent := by
  refine ⟨coherent.world, fun member => ?_, fun member => ?_⟩
  · exact coherent.writing ((List.mem_cons.mp member).resolve_left nofun)
  · rcases List.mem_cons.mp member with same | deeper
    · cases same
      exact has
    · exact coherent.reporting deeper

theorem push_delivery (coherent : (Moment.mk frames world).Coherent) :
    (Moment.mk (.delivery :: frames) world).Coherent :=
  ⟨coherent.world, fun member => coherent.writing ((List.mem_cons.mp member).resolve_left nofun),
    fun member => coherent.reporting ((List.mem_cons.mp member).resolve_left nofun)⟩

theorem push_install (coherent : (Moment.mk frames world).Coherent) (label name : Text)
    (id : Nat) : (Moment.mk (.install label name id :: frames) world).Coherent :=
  ⟨coherent.world, fun member => coherent.writing ((List.mem_cons.mp member).resolve_left nofun),
    fun member => coherent.reporting ((List.mem_cons.mp member).resolve_left nofun)⟩

/-- A pass whose next listener has had its turn. -/
theorem next_write {name : Text} {entry : Nat × Listener Callback}
    {line : List (Nat × Listener Callback)}
    (coherent : (Moment.mk (.write name (entry :: line) :: frames) world).Coherent) :
    (Moment.mk (.write name line :: frames) world).Coherent := by
  obtain ⟨has, knows⟩ := coherent.writing List.mem_cons_self
  exact coherent.pop.push_write (fun other member => has other (List.mem_cons_of_mem _ member))
    fun there other member => knows there other (List.mem_cons_of_mem _ member)

theorem next_report {failure : Failure} {entry : Nat × Listener Callback}
    {line : List (Nat × Listener Callback)}
    (coherent : (Moment.mk (.report failure (entry :: line) :: frames) world).Coherent) :
    (Moment.mk (.report failure line :: frames) world).Coherent :=
  coherent.pop.push_report fun other member =>
    coherent.reporting List.mem_cons_self other (List.mem_cons_of_mem _ member)

end Moment.Coherent

theorem concerned_subset (segments : Segments) (store : Store Callback) :
    store.concerned segments ⊆ store.listeners :=
  List.filter_sublist.subset

theorem listenersAt_subset (segments : Segments) (store : Store Callback) :
    store.listenersAt segments ⊆ store.listeners :=
  List.filter_sublist.subset

/-- A pass that begins has listeners in line that are registered. -/
theorem Begins.coherent {frames opened : List Frame} {world after : World}
    (begins : Begins world opened after) (coherent : (Moment.mk frames world).Coherent) :
    (Moment.mk (opened ++ frames) after).Coherent := by
  have orderly := coherent.world
  have later := begins.orderly orderly
  have grows := begins.grows
  have lined {name : Text} {store : Store Callback} (there : world.store? name = some store)
      {line : List (Nat × Listener Callback)} (subset : line ⊆ store.listeners) :
      world.HasLine line ∧ world.Knows name line :=
    ⟨fun entry member => orderly.line there entry (subset member),
      fun known entry member => orderly.known there known entry (subset member)⟩
  cases begins with
  | write there segments entries =>
    obtain ⟨has, knows⟩ := lined there (concerned_subset segments _)
    exact (coherent.push_write has knows).regrow later grows
  | remove there segments =>
    obtain ⟨has, knows⟩ := lined there (concerned_subset segments _)
    exact (coherent.push_write has knows).regrow later grows
  | report there segments failure =>
    exact coherent.push_report (lined there (listenersAt_subset segments _)).1
  | listen there accepted direct =>
    exact (coherent.push_install _ _ _).push_delivery.regrow later grows
  | _ => exact coherent.regrow later grows

theorem Step.coherent {moment later : Moment} (step : Step moment later)
    (coherent : moment.Coherent) : later.Coherent := by
  cases step with
  | begin free begins => exact begins.coherent coherent
  | told there registered news =>
    exact coherent.next_write.push_delivery.regrow (coherent.world.called _ _ _)
      (World.grows_called _ _ _ _)
  | reported =>
    exact coherent.next_report.push_delivery.regrow (coherent.world.called _ .report (.failure _))
      (World.grows_called _ .report (.failure _) _)
  | skip removed => exact coherent.next_write
  | broken there registered news => exact coherent.pop
  | written => exact coherent.pop
  | ended => exact coherent.pop
  | returned => exact coherent.pop
  | raised => exact coherent.pop.pop
  | installed =>
    exact coherent.pop.regrow
      (coherent.world.of_stores_eq rfl (Nat.le_refl _) coherent.world.scripts)
      (.of_stores_eq rfl (Nat.le_refl _))

theorem coherent_of_course {moment later : Moment} (course : Course moment later)
    (coherent : moment.Coherent) : later.Coherent := by
  induction course with
  | refl => exact coherent
  | tail _ step inductionHypothesis => exact step.coherent inductionHypothesis

/-- At the start nothing is under way, and nobody listens. -/
theorem coherent_ofStores {mode : BuildMode} {stores : List (Text × Store Callback)}
    (unheard : ∀ entry ∈ stores, entry.2.listeners = []) :
    (Moment.mk [] (.ofStores mode stores)).Coherent :=
  ⟨World.orderly_ofStores unheard, fun member => absurd member List.not_mem_nil,
    fun member => absurd member List.not_mem_nil⟩

end DocQuery
