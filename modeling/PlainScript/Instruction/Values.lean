/-
The values that an instruction spells out.
-/

namespace PlainScript

/-- The kinds of value, in the order in which they are looked for. -/
inductive ValueField where
  | username
  | password
  | email
  | url
  | button
  | expected
  | expectedUrl
  deriving DecidableEq, Repr

namespace ValueField

def name : ValueField → String
  | username => "username"
  | password => "password"
  | email => "email"
  | url => "url"
  | button => "button"
  | expected => "expected"
  | expectedUrl => "expected_url"

def all : List ValueField := [username, password, email, url, button, expected, expectedUrl]

end ValueField

structure Values where
  username : Option String := none
  password : Option String := none
  email : Option String := none
  url : Option String := none
  button : Option String := none
  expected : Option String := none
  expectedUrl : Option String := none
  deriving DecidableEq, Repr

namespace Values

def get (values : Values) : ValueField → Option String
  | .username => values.username
  | .password => values.password
  | .email => values.email
  | .url => values.url
  | .button => values.button
  | .expected => values.expected
  | .expectedUrl => values.expectedUrl

def ofFunction (value : ValueField → Option String) : Values :=
  ⟨value .username, value .password, value .email, value .url, value .button,
    value .expected, value .expectedUrl⟩

@[simp] theorem get_ofFunction (value : ValueField → Option String) (field : ValueField) :
    (ofFunction value).get field = value field := by
  cases field <;> rfl

/-- The fields that hold some text, with their values. -/
def toList (values : Values) : List (String × String) :=
  ValueField.all.filterMap fun field =>
    ((values.get field).filter (!·.isEmpty)).map fun value => (field.name, value)

end Values

end PlainScript
