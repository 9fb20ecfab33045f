import LogAlert.Notify.Header
import LogAlert.Text.Line

/-!
# Mail

A mail as its recipient reads it, after it was written to the wire and read from there.  What
is written is a header line for each of subject, sender and recipient, and the body.

## Main definitions

* `Mail.bodyText` : the text of a body.
* `Mail.compose` : a mail of plain text.
-/

namespace LogAlert

/-- A mail: its header, and its parts with their types. -/
structure Mail where
  subject : String
  sender : String
  recipient : String
  contentType : String
  parts : List (String × String)
  deriving Repr, Inhabited

namespace Mail

/-- The body of a mail.  Within ASCII all line breaks are line feeds. -/
def bodyText (body : List Char) : List Char :=
  if Header.isAscii body then Text.unifyBreaks body else body

/-- A mail of plain text.  The recipient must be a text.  All header lines are written before
the first of them is read. -/
def compose (subject sender : String) (recipient : Json) (body : String) : Except Failure Mail := do
  Header.write "Subject" subject.toList
  Header.write "From" sender.toList
  match recipient with
  | .str address =>
    Header.write "To" address.toList
    .ok
      { subject := String.ofList (← Header.read subject.toList)
        sender := String.ofList (← Header.read sender.toList)
        recipient := String.ofList (← Header.read address.toList)
        contentType := "multipart/alternative"
        parts := [("text/plain", String.ofList (bodyText body.toList))] }
  | v => .error (.lacks v "encode")

end Mail

end LogAlert
