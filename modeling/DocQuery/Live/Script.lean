/-
This file defines what can be asked of a set of stores and live queries, and how listeners react.

A listener is known by its name and by its reactions: on its n-th delivery it raises a failure or
carries out an action itself, while the delivery is still going on. Actions and reactions contain
each other, since an action may install a listener. On every delivery a listener goes through its
reactions in order and shows those whose position is the number of deliveries it has had by then;
deliveries that arrive while it reacts count too. So a reaction at position n is shown at most
once in each of the first n deliveries, and the weight of a script, which counts reactions that
often, bounds how many are ever shown.

A live query may also watch a feed: a source outside any store, which hands out what it is given.
A feed is known by its name as soon as anything is asked of it, and stays known however that ends.
-/

import DocQuery.Component.Basic
import DocQuery.Store.Reference
import DocQuery.Store.Snapshot

namespace DocQuery

/-! ### Feeds and targets -/

/-- What a feed hands out: a snapshot, or a failure. -/
inductive Give
  | snapshot (content : Snapshot)
  | failure (cause : Failure)
  /-- Something of which neither can be made, which shows only when it is handed out. -/
  | unusable (fault : Failure)
  deriving DecidableEq, Repr

/-- A source of snapshots outside any store, with the name it is known by. What it hands out first
is handed out as soon as it is watched. -/
structure Feed where
  name : Text
  path : Text
  type : QueryType
  projection : Projection
  first : List Give
  deriving DecidableEq, Repr

/-- What a query is asked of: the components of a query on a store, given as a value, or a
feed. -/
inductive Target
  | query (store : Text) (components : Value)
  | feed (source : Feed)
  deriving DecidableEq, Repr

/-! ### Actions and reactions -/

mutual
/-- Something that can be done at once, inside a listener too. -/
inductive Action
  /-- Writes a document. -/
  | write (store : Text) (path data : Value)
  /-- Removes a document. -/
  | remove (store : Text) (path : Value)
  /-- Reports a failure to the listeners on a path. -/
  | report (store : Text) (path : Value) (failure : Failure)
  /-- Closes a store. -/
  | closeStore (store : Text)
  /-- Asks how a store stands. -/
  | describe (store : Text)
  /-- Installs a listener on a reference. -/
  | listen (name : Text) (store : Text) (calls : List NavigationCall)
      (reactions : List Reaction)
  /-- Removes a listener that was installed on a reference. -/
  | unlisten (name : Text)
  /-- Starts a live query with a listener. -/
  | subscribe (name : Text) (target : Target) (reactions : List Reaction)
  /-- Cancels a live query. -/
  | cancel (name : Text)
  /-- Cancels a live query by leaving its scope, and tells whether it was active inside. -/
  | leave (name : Text)
  /-- Asks how a live query stands. -/
  | inspect (name : Text)
  /-- Lets the feed of a name hand something out. -/
  | announce (name : Text) (give : Give)
  /-- Starts a live query with a stream. -/
  | openStream (name : Text) (target : Target)
  /-- Closes a stream. -/
  | closeStream (name : Text)
  /-- Asks how a stream stands. -/
  | inspectStream (name : Text)
/-- What a listener does on one of its deliveries, counted from one. -/
inductive Reaction
  /-- Raises a failure. -/
  | raise (position : Nat) (failure : Failure)
  /-- Carries out an action; a failure of the action is raised, its response dropped. -/
  | act (position : Nat) (action : Action)
end

/-- The delivery that a reaction answers. -/
def Reaction.position : Reaction → Nat
  | .raise position _ => position
  | .act position _ => position

/-! ### Weight -/

mutual
/-- How many reactions an action can lead to, at most, by itself. -/
def Action.weight : Action → Nat
  | .listen _ _ _ reactions => reactionWeight reactions
  | .subscribe _ _ reactions => reactionWeight reactions
  | _ => 0
/-- How often the reactions of a listener can be shown, with those that they lead to. -/
def reactionWeight : List Reaction → Nat
  | [] => 0
  | reaction :: rest => reaction.weight + reactionWeight rest
/-- How often a reaction can be shown, with those that it leads to. -/
def Reaction.weight : Reaction → Nat
  | .raise position _ => position
  | .act position action => position * (action.weight + 1)
end

/-! ### Responses -/

/-- How a live query stands. -/
structure QueryStanding where
  active : Bool
  updates : Nat
  type : QueryType
  path : Value
  shown : String
  deriving DecidableEq, Repr

/-- How a stream and its live query stand. -/
structure StreamStanding where
  closed : Bool
  active : Bool
  updates : Nat
  deriving DecidableEq, Repr

/-- How a store stands: its documents, its listeners, whether it is closed; and the feeds that
have been released anywhere. -/
structure StoreStanding where
  paths : List Text
  listeners : Nat
  closed : Bool
  released : List Text
  deriving DecidableEq, Repr

/-- What an action answers. -/
inductive Response
  | done
  | unknown
  | active (flag : Bool)
  | store (standing : StoreStanding)
  | query (standing : QueryStanding)
  | stream (standing : StreamStanding)
  deriving DecidableEq, Repr

end DocQuery
