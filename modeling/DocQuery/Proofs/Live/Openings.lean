/-
This file says what a start can come to.

A live query on a store is refused before anything is registered, or it is installed: its listener
is registered, what was read is taken in, which never fails, and then the live query gets its
release. A live query on a feed is bound to the feed at once, and is left without a release if
something that the feed hands out first comes through as a failure.

A listener on a reference itself is refused before it is registered, too. If it raises at what it is
told first, it stays registered without a name.
-/

import DocQuery.Proofs.Live.Keeping
import DocQuery.Proofs.Live.Passes

namespace DocQuery

namespace World

/-- What a start can come to, from the state in which its live query has been added. -/
inductive Opens (performer : Performer) (aim : Aim) (query : Nat) (added : World) :
    Except Failure Nat × World → Prop
  /-- The store is not there, is closed, or refuses the reference. -/
  | refused {name : Text} {reference : Reference} {failure : Failure}
      (source : aim.source = .store name reference)
      (refused : ((added.store name).bind fun store => store.acceptListener reference) =
        .error failure) : Opens performer aim query added (.error failure, added)
  | installed {name : Text} {reference : Reference} {store : Store Callback} {snapshot : Snapshot}
      (source : aim.source = .store name reference) (there : added.store? name = some store)
      (accepted : store.acceptListener reference = .ok snapshot) :
      Opens performer aim query added (.ok query,
        ((added.updateStore name (Store.register ⟨reference, .live query⟩)).receive performer query
          .standing snapshot).2.attach query (.listener name store.nextListener))
  /-- Something comes through that the feed hands out first. -/
  | broken {feed : Feed} {failure : Failure} {after : World} (source : aim.source = .feed feed)
      (went : (added.bindFeed feed (some query)).receiveGives performer query feed.first =
        (.error failure, after)) : Opens performer aim query added (.error failure, after)
  | watching {feed : Feed} {after : World} (source : aim.source = .feed feed)
      (went : (added.bindFeed feed (some query)).receiveGives performer query feed.first =
        (.ok (), after)) :
      Opens performer aim query added (.ok query, after.attach query (.feed feed.path))

theorem getElem?_addQuery (query : LiveQuery) (world : World) :
    (world.addQuery query).2.queries[world.queries.length]? = some query := by
  rw [addQuery, List.getElem?_append_right (Nat.le_refl _), Nat.sub_self]
  rfl

/-- What a listener is accepted with can always be taken in. -/
theorem receive_of_accepted {store : Store Callback} {reference : Reference} {snapshot : Snapshot}
    (accepted : store.acceptListener reference = .ok snapshot) (performer : Performer) {query : Nat}
    (occasion : Occasion) {world : World} (present : query < world.queries.length) :
    (world.receive performer query occasion snapshot).1 = .ok () := by
  have answered := Store.read_of_acceptListener accepted
  rw [receive_of_read answered (List.getElem?_eq_getElem present)]

theorem opens_startQuery (performer : Performer) (aim : Aim) (sink : Sink) (world : World) :
    Opens performer aim world.queries.length (world.addQuery (queryFor aim sink)).2
      (world.startQuery performer aim sink) := by
  have number : (world.addQuery (queryFor aim sink)).1 = world.queries.length := rfl
  rw [World.startQuery, ← queryFor, number]
  cases source : aim.source with
  | store name reference =>
    rw [install, installOnStore]
    cases known : (world.addQuery (queryFor aim sink)).2.store name with
    | error failure => exact .refused source (by rw [known]; rfl)
    | ok store =>
      dsimp only
      cases accepted : store.acceptListener reference with
      | error failure => exact .refused source (by rw [known]; exact accepted)
      | ok snapshot =>
        have present : world.queries.length < ((world.addQuery (queryFor aim sink)).2.updateStore name
            (Store.register ⟨reference, .live world.queries.length⟩)).queries.length := by
          rw [queries_updateStore]
          exact (List.getElem?_eq_some_iff.mp (getElem?_addQuery _ world)).1
        have taken := receive_of_accepted accepted performer .standing present
        have opens : Opens performer aim world.queries.length _ (.ok world.queries.length, _) :=
          .installed source (store?_of_store known) accepted
        dsimp only
        generalize ((world.addQuery (queryFor aim sink)).2.updateStore name (Store.register
          ⟨reference, .live world.queries.length⟩)).receive performer world.queries.length .standing
            snapshot = result at opens taken
        obtain ⟨outcome, after⟩ := result
        cases taken
        exact opens
  | feed feed =>
    rw [install]
    generalize went : ((world.addQuery (queryFor aim sink)).2.bindFeed feed
      (some world.queries.length)).receiveGives performer world.queries.length feed.first = result
    obtain ⟨failure | _, after⟩ := result
    · exact .broken source went
    · exact .watching source went

/-- What the installation of a listener on a reference can leave. -/
theorem listen_cases (performer : Performer) (label name : Text) (calls : List NavigationCall)
    (reactions : List Reaction) (world : World) :
    (world.listen performer label name calls reactions).2 = world ∨
    (world.listen performer label name calls reactions).2 = (world.addRecipient label reactions).2 ∨
    ∃ store reference snapshot, (world.addRecipient label reactions).2.store? name = some store ∧
      ∃ heard, heard = (((world.addRecipient label reactions).2.updateStore name (Store.register
        ⟨reference, .recipient world.recipients.length⟩)).hear performer world.recipients.length
          .standing (.snapshot snapshot)).2 ∧
        ((world.listen performer label name calls reactions).2 = heard ∨
          (world.listen performer label name calls reactions).2 = { heard with
            listenerNames := (label, name, store.nextListener) :: heard.listenerNames }) := by
  unfold listen
  cases world.store name with
  | error failure => exact .inl rfl
  | ok store =>
    cases Reference.root.callAll calls with
    | error failure => exact .inl rfl
    | ok reference =>
      right
      have number : (world.addRecipient label reactions).1 = world.recipients.length := rfl
      dsimp only
      rw [number, installRecipient]
      cases known : (world.addRecipient label reactions).2.store name with
      | error failure => exact .inl rfl
      | ok store =>
        dsimp only
        cases store.acceptListener reference with
        | error failure => exact .inl rfl
        | ok snapshot =>
          refine .inr ⟨store, reference, snapshot, store?_of_store known, _, rfl, ?_⟩
          dsimp only
          generalize ((world.addRecipient label reactions).2.updateStore name (Store.register
            ⟨reference, .recipient world.recipients.length⟩)).hear performer world.recipients.length
              .standing (.snapshot snapshot) = result
          obtain ⟨failure | _, after⟩ := result
          · exact .inl rfl
          · exact .inr rfl

end World

end DocQuery
