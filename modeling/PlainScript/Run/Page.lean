/-
Pages that a run works on. Only the operations are known; each of them may fail.
-/

namespace PlainScript

/-- What a page says when an operation fails. -/
structure PageFault where
  isTimeout : Bool
  message : String
  deriving DecidableEq, Repr

/-- An operation on a page whose state is of type `σ`; the state outlives a failure. -/
abbrev PageAct (σ : Type) := ExceptT PageFault (StateM σ)

/-- A page by its operations; elements are named by selectors. -/
structure Page (σ : Type) where
  setTimeout : Int → PageAct σ Unit
  goto : (url : String) → PageAct σ Unit
  /-- How many elements a selector finds. -/
  count : (selector : String) → PageAct σ Nat
  fill : (selector text : String) → PageAct σ Unit
  click : (selector : String) → PageAct σ Unit
  innerText : (selector : String) → PageAct σ String
  inputValue : (selector : String) → PageAct σ String
  isEnabled : (selector : String) → PageAct σ Bool
  waitVisible : (selector : String) → (timeout : Int) → PageAct σ Unit
  /-- Waits for an address that passes a test. -/
  waitForUrl : (test : String → Bool) → (timeout : Int) → PageAct σ Unit
  url : PageAct σ String
  screenshot : (path : String) → PageAct σ Unit

end PlainScript
