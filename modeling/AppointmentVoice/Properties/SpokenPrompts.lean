import AppointmentVoice.Ivr.Twiml

/-!
# What Twilio reads of an answer

A reader of XML finds the prompt, the number and the address of an answer in its TwiML as
they were given, as long as XML has all of their characters and a reader does not change
them: `html.escape` leaves control characters and carriage returns as they are.

**The result.** `twiml_says_the_prompt_iff`; `bell_is_not_read` is a prompt with a control
character.
-/

set_option autoImplicit false

namespace AppointmentVoice

open Formats.Xml

/-! ## The document that is meant -/

/-- A voice and what it says. -/
def say (language text : String) : Node :=
  .element "Say".toList [("language".toList, language.toList)]
    (if text.toList = [] then [] else [.text text.toList])

/-- The verbs of a document, each on its own line. -/
def onLines (indent : String) : List Node → List Node
  | [] => []
  | verb :: verbs => .text ('\n' :: indent.toList) :: verb :: onLines indent verbs

def responseOf (verbs : List Node) : Node :=
  .element "Response".toList [] (onLines "  " verbs ++ [.text ['\n']])

/-- A voice that says the prompt while a key is awaited. -/
def gather (url : String) (spoken : Node) : Node :=
  .element "Gather".toList
    [("numDigits".toList, "1".toList), ("action".toList, url.toList),
      ("method".toList, "POST".toList)]
    [.text "\n    ".toList, spoken, .text "\n  ".toList]

def dial (number : String) : Node := .element "Dial".toList [] [.text number.toList]

def hangup : Node := .empty "Hangup".toList []

/-- The document of an answer: its structure is that of the action. -/
def twiml (response : IvrResponse) (gatherActionUrl transferTo : Option String)
    (locale : String) : Node :=
  let language := twimlLanguage locale
  let spoken := say language response.prompt
  match response.action, truthy gatherActionUrl, truthy transferTo with
  | .continues, some url, _ =>
      responseOf [gather url spoken, say language (noInputGoodbye locale), hangup]
  | .transfers, _, some number => responseOf [spoken, dial number]
  | _, _, _ => responseOf [spoken, hangup]

/-- What comes from elsewhere has characters of XML only: texts without carriage returns, and an
address without blanks other than spaces. -/
def AllReadable (response : IvrResponse) (gatherActionUrl transferTo : Option String) : Prop :=
  TextKept response.prompt.toList ∧
    match response.action, truthy gatherActionUrl, truthy transferTo with
    | .continues, some url, _ => ValueKept url.toList
    | .transfers, _, some number => TextKept number.toList
    | _, _, _ => True

section Documents

variable {response : IvrResponse} {gatherActionUrl transferTo : Option String} {locale : String}

/-! ## The document that is written -/

theorem printNodes_spoken (text : String) :
    printNodes (if text.toList = [] then [] else [.text text.toList]) = escape text.toList := by
  split
  · next nothing => rw [nothing, printNodes, escape_nil]
  · rw [printNodes, printNodes, List.append_nil, Node.print]

theorem escape_twimlLanguage (locale : String) :
    escape (twimlLanguage locale).toList = (twimlLanguage locale).toList := by
  unfold twimlLanguage
  split_ifs <;> decide

theorem toList_htmlEscape (text : String) : (htmlEscape text).toList = escape text.toList :=
  String.toList_ofList

theorem print_say {language : String} (plain : escape language.toList = language.toList)
    (text : String) : (say language text).print = "<Say language=\"".toList ++
      (language.toList ++ ("\">".toList ++ (escape text.toList ++ "</Say>".toList))) := by
  simp only [say, Node.print, printAttributes, List.flatMap_cons, List.flatMap_nil, printAttribute,
    printNodes_spoken, plain]
  simp

theorem print_hangup : hangup.print = "<Hangup/>".toList := by decide

theorem print_dial (number : String) : (dial number).print =
    "<Dial>".toList ++ (escape number.toList ++ "</Dial>".toList) := by
  simp only [dial, Node.print, printAttributes, List.flatMap_nil, printNodes]
  simp

theorem print_gather {url : String} (spoken : Node) : (gather url spoken).print =
    "<Gather numDigits=\"1\" action=\"".toList ++ (escape url.toList ++
      ("\" method=\"POST\">\n    ".toList ++ (spoken.print ++ "\n  </Gather>".toList))) := by
  have one : escape "1".toList = "1".toList := by decide
  have post : escape "POST".toList = "POST".toList := by decide
  have indent : escape "\n    ".toList = "\n    ".toList := by decide
  have outdent : escape "\n  ".toList = "\n  ".toList := by decide
  simp only [gather, Node.print, printAttributes, List.flatMap_cons, List.flatMap_nil,
    printAttribute, printNodes, one, post, indent, outdent]
  simp

/-- The document of a list of verbs. -/
theorem print_responseOf (verbs : List Node) : printDocument (responseOf verbs) =
    "<?xml version=\"1.0\" encoding=\"UTF-8\"?>\n<Response>\n".toList ++
      (verbs.flatMap (fun verb => "  ".toList ++ (verb.print ++ ['\n'])) ++
        "</Response>".toList) := by
  have inner : ∀ rest : List Char, printNodes (onLines "  " verbs ++ [.text ['\n']]) ++ rest =
      '\n' :: (verbs.flatMap (fun verb => "  ".toList ++ (verb.print ++ ['\n'])) ++ rest) := by
    intro rest
    induction verbs with
    | nil => simp [onLines, printNodes, Node.print, escape, escapeChar]
    | cons verb verbs ih =>
        have indent : escape ('\n' :: "  ".toList) = '\n' :: "  ".toList := by decide
        rw [onLines, List.cons_append, List.cons_append, printNodes, printNodes, Node.print, indent,
          List.append_assoc, List.append_assoc, ih]
        simp
  have opening : "<?xml version=\"1.0\" encoding=\"UTF-8\"?>\n<Response>\n".toList =
      declaration ++ '\n' :: "<Response>\n".toList := by decide
  rw [printDocument, responseOf, Node.print, opening]
  simp [printAttributes, inner]

set_option maxRecDepth 2000 in
theorem toList_gatherDocument {language : String} (plain : escape language.toList = language.toList)
    (prompt url goodbye : String) :
    (gatherDocument language (htmlEscape prompt) (htmlEscape url) (htmlEscape goodbye)).toList =
      printDocument
        (responseOf [gather url (say language prompt), say language goodbye, hangup]) := by
  refine Eq.trans ?_ (print_responseOf _).symm
  unfold gatherDocument
  simp only [String.toList_append, toList_htmlEscape, List.flatMap_cons, List.flatMap_nil,
    print_gather, print_say plain, print_hangup]
  simp only [String.reduceToList, List.cons_append, List.nil_append, List.append_assoc,
    List.append_nil]

theorem toList_dialDocument {language : String} (plain : escape language.toList = language.toList)
    (prompt number : String) :
    (dialDocument language (htmlEscape prompt) (htmlEscape number)).toList =
      printDocument (responseOf [say language prompt, dial number]) := by
  refine Eq.trans ?_ (print_responseOf _).symm
  unfold dialDocument
  simp only [String.toList_append, toList_htmlEscape, List.flatMap_cons, List.flatMap_nil,
    print_say plain, print_dial]
  simp only [String.reduceToList, List.cons_append, List.nil_append, List.append_assoc,
    List.append_nil]

theorem toList_hangupDocument {language : String} (plain : escape language.toList = language.toList)
    (prompt : String) : (hangupDocument language (htmlEscape prompt)).toList =
      printDocument (responseOf [say language prompt, hangup]) := by
  refine Eq.trans ?_ (print_responseOf _).symm
  unfold hangupDocument
  simp only [String.toList_append, toList_htmlEscape, List.flatMap_cons, List.flatMap_nil,
    print_say plain, print_hangup]
  simp only [String.reduceToList, List.cons_append, List.nil_append, List.append_assoc,
    List.append_nil]

/-- The text that is written is the document that is meant. -/
theorem toList_ivrToTwiml (response : IvrResponse) (gatherActionUrl transferTo : Option String)
    (locale : String) : (ivrToTwiml response gatherActionUrl transferTo locale).toList =
      printDocument (twiml response gatherActionUrl transferTo locale) := by
  have plain := escape_twimlLanguage locale
  unfold ivrToTwiml twiml
  generalize truthy gatherActionUrl = url
  generalize truthy transferTo = number
  generalize response.action = action
  cases action with
  | ends => exact toList_hangupDocument plain response.prompt
  | continues =>
      cases url with
      | none => exact toList_hangupDocument plain response.prompt
      | some url => exact toList_gatherDocument plain response.prompt url (noInputGoodbye locale)
  | transfers =>
      cases number with
      | none => exact toList_hangupDocument plain response.prompt
      | some number => exact toList_dialDocument plain response.prompt number

/-! ## The document that is read -/

theorem sound_say (language text : String) : (say language text).sound = true := by
  have children : nodesSound (if text.toList = [] then [] else [.text text.toList]) = true := by
    split
    · rfl
    · next some => simp [nodesSound, Node.sound, some]
  rw [say, Node.sound, children]
  rfl

theorem sound_responseOf {verbs : List Node}
    (each : ∀ verb ∈ verbs, verb.sound = true ∧ verb.isText = false) :
    (responseOf verbs).sound = true := by
  have children : nodesSound (onLines "  " verbs ++ [.text ['\n']]) = true := by
    induction verbs with
    | nil => rfl
    | cons verb verbs ih =>
        obtain ⟨sound, tag⟩ := each verb List.mem_cons_self
        rw [onLines, List.cons_append, List.cons_append, nodesSound, nodesSound,
          ih fun other member => each other (List.mem_cons_of_mem _ member), sound, List.head?_cons,
          Option.any_some, tag]
        rfl
  rw [responseOf, Node.sound, children]
  rfl

theorem sound_gather {url : String} {spoken : Node} (sound : spoken.sound = true)
    (tag : spoken.isText = false) : (gather url spoken).sound = true := by
  have children : nodesSound [.text "\n    ".toList, spoken, .text "\n  ".toList] = true := by
    have one : ∀ more : List Node, nodesSound more = true →
        nodesSound (.text "\n    ".toList :: spoken :: more) = nodesSound (spoken :: more) := by
      intro more _
      rw [nodesSound, List.head?_cons, Option.any_some, tag]
      simp [Node.sound]
    rw [one _ (by decide), nodesSound, sound, tag]
    decide
  rw [gather, Node.sound, children]
  rfl

theorem sound_dial {number : String} (some : number.isEmpty = false) :
    (dial number).sound = true := by
  have text : number.toList ≠ [] := by
    intro nothing
    rw [String.toList_eq_nil_iff.mp nothing] at some
    cases some
  simp [dial, Node.sound, nodesSound, text]
  decide

theorem nonempty_of_truthy {text : Option String} {given : String}
    (isGiven : truthy text = some given) : given.isEmpty = false := by
  have met := Option.filter_eq_some_iff.mp isGiven
  simpa using met.2

theorem sound_twiml : (twiml response gatherActionUrl transferTo locale).sound = true := by
  have spoken : ∀ text : String, (say (twimlLanguage locale) text).sound = true ∧
      (say (twimlLanguage locale) text).isText = false := fun text => ⟨sound_say _ text, rfl⟩
  have hung : hangup.sound = true ∧ hangup.isText = false := by decide
  have ended : (responseOf [say (twimlLanguage locale) response.prompt, hangup]).sound = true := by
    refine sound_responseOf (List.forall_mem_cons.mpr ⟨spoken _, ?_⟩)
    exact List.forall_mem_singleton.mpr hung
  unfold twiml
  split
  · refine sound_responseOf (List.forall_mem_cons.mpr ⟨⟨sound_gather (spoken _).1 rfl, rfl⟩, ?_⟩)
    exact List.forall_mem_cons.mpr ⟨spoken _, List.forall_mem_singleton.mpr hung⟩
  · next number _ dialled =>
      refine sound_responseOf (List.forall_mem_cons.mpr ⟨spoken _, ?_⟩)
      exact List.forall_mem_singleton.mpr ⟨sound_dial (nonempty_of_truthy dialled), rfl⟩
  · exact ended

theorem kept_say {language text : String} (plain : ValueKept language.toList) :
    (say language text).Kept ↔ TextKept text.toList := by
  rw [say, kept_element_iff]
  simp only [List.forall_mem_singleton, plain, true_and]
  split
  · next nothing => simp [nothing, TextKept]
  · rw [List.forall_mem_singleton, kept_text_iff]

theorem kept_responseOf {verbs : List Node} :
    (responseOf verbs).Kept ↔ ∀ verb ∈ verbs, verb.Kept := by
  have children : (∀ child ∈ onLines "  " verbs ++ [.text ['\n']], child.Kept) ↔
      ∀ verb ∈ verbs, verb.Kept := by
    induction verbs with
    | nil =>
        have last : TextKept ['\n'] := by decide
        simp [onLines, kept_text_iff, last]
    | cons verb verbs ih =>
        have indent : (Node.text ('\n' :: "  ".toList)).Kept := kept_text_iff.mpr (by decide)
        rw [onLines, List.cons_append, List.cons_append, List.forall_mem_cons, List.forall_mem_cons,
          ih, List.forall_mem_cons]
        exact and_iff_right indent
  rw [responseOf, kept_element_iff, children]
  simp

theorem kept_gather {url : String} {spoken : Node} :
    (gather url spoken).Kept ↔ ValueKept url.toList ∧ spoken.Kept := by
  have one : ValueKept "1".toList := by decide
  have post : ValueKept "POST".toList := by decide
  have indent : (Node.text "\n    ".toList).Kept := kept_text_iff.mpr (by decide)
  have outdent : (Node.text "\n  ".toList).Kept := kept_text_iff.mpr (by decide)
  rw [gather, kept_element_iff]
  simp only [List.forall_mem_cons, List.not_mem_nil, false_implies, implies_true, one, post, indent,
    outdent, true_and, and_true]

theorem kept_dial {number : String} : (dial number).Kept ↔ TextKept number.toList := by
  rw [dial, kept_element_iff]
  simp only [List.forall_mem_singleton, kept_text_iff, List.not_mem_nil, false_implies,
    implies_true, true_and]

theorem kept_hangup : hangup.Kept := by
  rw [hangup, kept_empty_iff]
  exact List.forall_mem_nil _

theorem valueKept_twimlLanguage (locale : String) : ValueKept (twimlLanguage locale).toList := by
  unfold twimlLanguage
  split_ifs <;> decide

theorem textKept_noInputGoodbye (locale : String) : TextKept (noInputGoodbye locale).toList := by
  unfold noInputGoodbye
  split_ifs <;> decide

theorem kept_twiml : (twiml response gatherActionUrl transferTo locale).Kept ↔
    AllReadable response gatherActionUrl transferTo := by
  have plain := valueKept_twimlLanguage locale
  unfold twiml AllReadable
  generalize truthy gatherActionUrl = url
  generalize truthy transferTo = number
  generalize response.action = action
  have ended : (responseOf [say (twimlLanguage locale) response.prompt, hangup]).Kept ↔
      TextKept response.prompt.toList ∧ True := by
    simp only [kept_responseOf, List.forall_mem_cons, kept_say plain, kept_hangup, List.not_mem_nil,
      false_implies, implies_true, and_true]
  cases action with
  | ends => exact ended
  | continues =>
      cases url with
      | none => exact ended
      | some url =>
          have goodbye := textKept_noInputGoodbye locale
          simp only [kept_responseOf, List.forall_mem_cons, List.not_mem_nil, false_implies,
            implies_true, kept_gather, kept_say plain, kept_hangup, goodbye, and_true]
          exact and_comm
  | transfers =>
      cases number with
      | none => exact ended
      | some number =>
          simp only [kept_responseOf, List.forall_mem_cons, List.not_mem_nil, false_implies,
            implies_true, kept_say plain, kept_dial, and_true]

end Documents

/-! ## Results -/

/-- **What Twilio reads.**  A reader of XML finds in the answer the elements of its action, with
the prompt, the number and the address as they were given, if and only if these have
characters of XML only, the prompt and the number no carriage return, and the address no
blank other than a space. -/
theorem twiml_says_the_prompt_iff (response : IvrResponse)
    (gatherActionUrl transferTo : Option String) (locale : String) :
    read (ivrToTwiml response gatherActionUrl transferTo locale).toList =
        some (twiml response gatherActionUrl transferTo locale) ↔
      AllReadable response gatherActionUrl transferTo := by
  have tag : (twiml response gatherActionUrl transferTo locale).isText = false := by
    unfold twiml
    split <;> rfl
  rw [toList_ivrToTwiml, read_document_iff tag sound_twiml, kept_twiml]

/-! ## A service with a control character -/

/-- A call in which the caller is to choose a service. -/
def choosingCall : VoiceSession :=
  ⟨1, 1, 1, "+48100200300", .serviceSelection, "en", none, none, none, none, none, none, none, 0, 0,
    some "CA1", none, 0⟩

/-- A service whose name ends with a bell. -/
def bellService : Service :=
  ⟨1, 1, 1, "Haircut\x07", 30, Nat.succ_pos 29, true, none, false, none⟩

/-- The menu of the service is not a document of XML. -/
theorem bell_is_not_read :
    read (ivrToTwiml (serviceResponse .selectService choosingCall [bellService])
        (some "https://example.com/voice") none "en").toList = none ∧
      read (ivrToTwiml (serviceResponse .selectService choosingCall [bellService])
        (some "https://example.com/voice") none "en").toList ≠
          some (twiml (serviceResponse .selectService choosingCall [bellService])
            (some "https://example.com/voice") none "en") := by
  have refused : read (ivrToTwiml (serviceResponse .selectService choosingCall [bellService])
      (some "https://example.com/voice") none "en").toList = none := by
    rw [toList_ivrToTwiml, read_document rfl sound_twiml, if_neg]
    decide +kernel
  rw [refused]
  exact ⟨rfl, nofun⟩

end AppointmentVoice
