import Gatehouse.Pattern.Search
import Gatehouse.Safety.Verdict

/-!
# Personal data in generated text

Four classes of personal data are looked for, in this order: mail addresses, telephone numbers, social
security numbers and student numbers.

* `PersonalData.check` flags generated text with the first class that occurs in it and the number of
  times it does; prompts may mention personal data and always pass;
* `PersonalData.redact` replaces every occurrence of every class, class by class, by a placeholder.
-/

namespace Gatehouse.Safety

open Gatehouse.Text Gatehouse.Number
open Gatehouse.Pattern

/-- A class of personal data. -/
inductive PersonalData where
  | email
  | phone
  | ssn
  | studentId
  deriving DecidableEq, Repr

namespace PersonalData

/-- The classes in the order they are looked for and replaced. -/
def classes : List PersonalData := [.email, .phone, .ssn, .studentId]

/-- The name of the class in findings. -/
def name : PersonalData → String
  | .email => "email"
  | .phone => "phone"
  | .ssn => "ssn"
  | .studentId => "student_id"

/-- What is written in the place of data of the class. -/
def placeholder : PersonalData → String
  | .email => "[REDACTED EMAIL]"
  | .phone => "[REDACTED PHONE]"
  | .ssn => "[REDACTED SSN]"
  | .studentId => "[REDACTED STUDENT_ID]"

/-! ## 1. What data of each class looks like -/

/-- A character of the part of a mail address before the at sign. -/
def isMailbox (c : Char) : Bool :=
  isAsciiLetter c || isAsciiDigit c || c == '.' || c == '_' || c == '%' || c == '+' || c == '-'

/-- A character of the part of a mail address behind the at sign. -/
def isHost (c : Char) : Bool :=
  isAsciiLetter c || isAsciiDigit c || c == '.' || c == '-'

/-- A character that separates the groups of a telephone number. -/
def isSeparator (c : Char) : Bool := c == '-' || c == '.' || isBlank c

/-- Mailbox, at sign, host, and a last label of at least two letters. -/
def emailPattern : Pattern :=
  all [many isMailbox 1 none true, exactly "@", many isHost 1 none true, exactly ".",
    many isAsciiLetter 2 none true]

/-- A ten-digit number in groups, with a country code `1` before it if there is one, and the first
    group in parentheses or at a word boundary. -/
def phonePattern : Pattern :=
  all [optional (all [optional (exactly "+"), exactly "1", optional (one isSeparator)]),
    either (all [exactly "(", digits 3, exactly ")", optional (one isBlank)])
      (all [boundary, digits 3, one isSeparator]),
    digits 3, one isSeparator, digits 4, boundary]

/-- Groups of three, two and four digits with hyphens between them, standing on their own. -/
def ssnPattern : Pattern :=
  all [boundary, digits 3, exactly "-", digits 2, exactly "-", digits 4, boundary]

/-- The word for a student number, a colon, and five to ten digits. -/
def studentIdPattern : Pattern :=
  all [boundary, anyWord ["student_id", "sid"], optionalBlanks, word ":", optionalBlanks,
    many isDigit 5 (some 10) true, boundary]

/-- What data of the class looks like. -/
def pattern : PersonalData → Pattern
  | .email => emailPattern
  | .phone => phonePattern
  | .ssn => ssnPattern
  | .studentId => studentIdPattern

/-! ## 2. Checking and redacting -/

/-- How sure a finding is. -/
def findingConfidence : Binary := single.round false 9 10

/-- How often data of the class occurs in the text. -/
def occurrences (text : String) (c : PersonalData) : Nat := c.pattern.count text.toList

/-- What is said about `n` occurrences of a class. -/
def description (c : PersonalData) (n : Nat) : String :=
  "PII detected: " ++ c.name ++ " (" ++ toString n ++ (if n == 1 then " match)" else " matches)")

/-- The first of the classes that occurs in the text, and how often it does. -/
def firstOccurring (text : String) : List PersonalData → Option (PersonalData × Nat)
  | [] => none
  | c :: cs =>
    match occurrences text c with
    | 0 => firstOccurring text cs
    | n + 1 => some (c, n + 1)

/-- The verdict on a text. -/
def check (d : Direction) (text : String) : Verdict :=
  match d with
  | .input => .allowed
  | .output =>
    match firstOccurring text classes with
    | none => .allowed
    | some (c, n) => .redact .pii findingConfidence (description c n)

/-- The text with every occurrence of one class replaced. -/
def redactClass (c : PersonalData) (text : List Char) : List Char :=
  c.pattern.replaceAll c.placeholder.toList text

/-- **The text with every occurrence of every class replaced**, one class after the other. -/
def redact (text : String) : String :=
  String.ofList (classes.foldl (fun t c => redactClass c t) text.toList)

end PersonalData

end Gatehouse.Safety
