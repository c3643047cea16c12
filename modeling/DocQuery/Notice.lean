/-
This file defines the notices that the library gives while it goes on working.

A notice is for whoever watches over a running program. Nothing in the library reads one back,
and none changes an answer: what a notice tells of was ignored, caught, or handed on.
-/

import DocQuery.Failure

namespace DocQuery

/-- Something that happened on the way. -/
inductive Notice
  /-- A collection expression stood on something that is no collection, and was ignored. -/
  | ignoredExpression (path : Value)
  /-- A listener of a live query raised, and what it raised was dropped. -/
  | listenerRaised (path : Value)
  /-- A store reported a failure to a live query. -/
  | storeFailed (path : Value) (failure : Failure)
  deriving DecidableEq, Repr

namespace Notice

/-- How grave a notice is. -/
def level : Notice → String
  | .ignoredExpression _ => "WARNING"
  | .listenerRaised _ => "ERROR"
  | .storeFailed _ _ => "WARNING"

/-- The part of the library that gives a notice. -/
def origin : Notice → String
  | .ignoredExpression _ => "fql.builder"
  | .listenerRaised _ => "fql.executor.engine"
  | .storeFailed _ _ => "fql.executor.engine"

/-- The wording of a notice. -/
def message : Notice → Text
  | .ignoredExpression path =>
    "Ignoring collection expression on non-collection reference " ++ path.quoted
  | .listenerRaised path => "Listener for " ++ path.displayed ++ " raised"
  | .storeFailed path failure => "Store error on " ++ path.displayed ++ ": " ++ failure.message

/-- A notice as one line of a log. -/
def line (notice : Notice) : Text :=
  notice.level ++ " " ++ notice.origin ++ ": " ++ notice.message

end Notice

end DocQuery
