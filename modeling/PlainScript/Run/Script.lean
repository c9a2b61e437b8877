/-
Scripted pages, which answer from a script and keep a record of what is done to them. They stand
in for a browser.
-/

import PlainScript.Run.Page

namespace PlainScript

structure PageScript where
  /-- Selectors of the elements that are there. -/
  present : List String := []
  /-- Where a click on an element leads. -/
  navigates : List (String × String) := []
  texts : List (String × String) := []
  values : List (String × String) := []
  disabled : List String := []
  /-- What filling in or clicking an element fails with. -/
  errors : List (String × PageFault) := []
  /-- What going to an address fails with. -/
  gotoErrors : List (String × PageFault) := []
  redirects : List (String × String) := []
  deriving DecidableEq, Repr

/-- What is done to a page. -/
inductive PageEvent where
  | timeout (milliseconds : Int)
  | goto (url : String)
  | fill (selector text : String)
  | click (selector : String)
  | waitFor (selector : String) (timeout : Int)
  | screenshot (path : String)
  deriving DecidableEq, Repr

/-- The address that a page is at, and what has been done to it, the last first. -/
structure PageRecord where
  url : String := "about:blank"
  events : List PageEvent := []
  deriving DecidableEq, Repr

namespace PageScript

def note (event : PageEvent) : PageAct PageRecord Unit :=
  modify fun record => { record with events := event :: record.events }

def visit (url : String) : PageAct PageRecord Unit := modify fun record => { record with url }

/-- Fails if there is a fault. -/
def failOn (fault : Option PageFault) : PageAct PageRecord Unit :=
  match fault with
  | some fault => throw fault
  | none => return ()

def timeoutFault (timeout : Int) : PageFault :=
  ⟨true, "Timeout " ++ toString timeout ++ "ms exceeded."⟩

/-- The page of a script. -/
def page (script : PageScript) : Page PageRecord where
  setTimeout timeout := note (.timeout timeout)
  goto url := do
    note (.goto url)
    failOn (script.gotoErrors.lookup url)
    visit ((script.redirects.lookup url).getD url)
  count selector := return if script.present.contains selector then 1 else 0
  fill selector text := do
    failOn (script.errors.lookup selector)
    note (.fill selector text)
  click selector := do
    failOn (script.errors.lookup selector)
    note (.click selector)
    match script.navigates.lookup selector with
    | some url => visit url
    | none => return ()
  innerText selector := return (script.texts.lookup selector).getD ""
  inputValue selector := return (script.values.lookup selector).getD ""
  isEnabled selector := return !script.disabled.contains selector
  waitVisible selector timeout := do
    note (.waitFor selector timeout)
    if script.present.contains selector then return () else throw (timeoutFault timeout)
  waitForUrl test timeout := do
    if test (← get).url then return () else throw (timeoutFault timeout)
  url := return (← get).url
  screenshot path := note (.screenshot path)

end PageScript

end PlainScript
