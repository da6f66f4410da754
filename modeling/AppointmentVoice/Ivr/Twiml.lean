import AppointmentVoice.Formats.Xml
import AppointmentVoice.Ivr.Menus

/-!
# Answers to a phone call as TwiML

`ivr_to_twiml` writes an answer of the phone menu as a document that Twilio carries out.
The texts that come from elsewhere are escaped for HTML.
-/

set_option autoImplicit false

namespace AppointmentVoice

/-! ## Languages -/

/-- `_twiml_language`. -/
def twimlLanguage (locale : String) : String :=
  if locale = "en" then "en-US" else if locale = "pl" then "pl-PL" else "en-US"

/-- `resolve_prompt(PromptKey.NO_INPUT_GOODBYE, …)`. -/
def noInputGoodbye (locale : String) : String :=
  if locale = "pl" then "Nie otrzymaliśmy żadnej odpowiedzi. Do usłyszenia."
  else "We didn't receive your input. Goodbye."

/-! ## Documents -/

/-- `html.escape`. -/
def htmlEscape (text : String) : String := String.ofList (Formats.Xml.escape text.toList)

/-- A text that counts as true. -/
def truthy (text : Option String) : Option String := text.filter fun text => !text.isEmpty

/-- The document of an answer that waits for a key. -/
def gatherDocument (language prompt url noInputGoodbye : String) : String :=
  "<?xml version=\"1.0\" encoding=\"UTF-8\"?>\n" ++
    "<Response>\n" ++
    "  <Gather numDigits=\"1\" action=\"" ++ url ++ "\" method=\"POST\">\n" ++
    "    <Say language=\"" ++ language ++ "\">" ++ prompt ++ "</Say>\n" ++
    "  </Gather>\n" ++
    "  <Say language=\"" ++ language ++ "\">" ++ noInputGoodbye ++ "</Say>\n" ++
    "  <Hangup/>\n" ++
    "</Response>"

/-- The document of an answer that transfers the call. -/
def dialDocument (language prompt number : String) : String :=
  "<?xml version=\"1.0\" encoding=\"UTF-8\"?>\n" ++
    "<Response>\n" ++
    "  <Say language=\"" ++ language ++ "\">" ++ prompt ++ "</Say>\n" ++
    "  <Dial>" ++ number ++ "</Dial>\n" ++
    "</Response>"

/-- The document of an answer that ends the call. -/
def hangupDocument (language prompt : String) : String :=
  "<?xml version=\"1.0\" encoding=\"UTF-8\"?>\n" ++
    "<Response>\n" ++
    "  <Say language=\"" ++ language ++ "\">" ++ prompt ++ "</Say>\n" ++
    "  <Hangup/>\n" ++
    "</Response>"

/-- `ivr_to_twiml`. -/
def ivrToTwiml (response : IvrResponse) (gatherActionUrl transferTo : Option String)
    (locale : String) : String :=
  let prompt := htmlEscape response.prompt
  let language := twimlLanguage locale
  match response.action, truthy gatherActionUrl, truthy transferTo with
  | .continues, some url, _ =>
      gatherDocument language prompt (htmlEscape url) (htmlEscape (noInputGoodbye locale))
  | .transfers, _, some number => dialDocument language prompt (htmlEscape number)
  | _, _, _ => hangupDocument language prompt

end AppointmentVoice
