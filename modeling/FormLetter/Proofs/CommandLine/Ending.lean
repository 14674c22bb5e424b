import FormLetter.Proofs.CommandLine.Refusing

/-!
# How the program ends

The program ends with 2 when the data cannot be read, with 1 when the document cannot be made, and
with 0 otherwise, unless it meets with a fault that it is not made to report: then it ends without a
number. There are four kinds of those. The data is no text, or is nested too deep, or has a number
of too many digits. The letter is refused for what its file is, or for the name of a picture. And
after the document was made, what was noted as undefined cannot be listed, since one of the labels
is no text.
-/

namespace FormLetter.CommandLine

open FormLetter.Script

variable {files : Files} {arguments : Arguments}

/-! ## Data -/

/-- The text of a data file, if it holds one. -/
def dataText? : Item → Option String
  | .bytes content => String.fromUTF8? content
  | _ => none

/-- The data that arguments name: that in a file, or nothing. -/
def Arguments.dataIn (arguments : Arguments) (files : Files) : Except DataProblem Json :=
  if (arguments.data.getD "").isEmpty then .ok .null
  else readData files (.ofString (arguments.data.getD ""))

/-- What keeps the program from reading a text, though it is made to report other faults of
texts. -/
inductive Overtaxes (text : String) : Fault → Prop
  /-- The data is nested too deep. -/
  | nesting {line column offset : Nat}
    (unread : Json.read (String.ofList (plainLines text.toList))
      = .error ⟨.nesting, line, column, offset⟩) : Overtaxes text (.trouble .recursion)
  /-- A whole number has too many digits. -/
  | digits {count line column offset : Nat}
    (unread : Json.read (String.ofList (plainLines text.toList))
      = .error ⟨.digits count, line, column, offset⟩) :
    Overtaxes text (.trouble (.value (.longNumeral count)))

/-- The data cannot be read for a reason that the program is not made to report: it is no text, or
one that asks for too much. -/
theorem readData_unexpected_iff {path : Path} {fault : Fault} :
    readData files path = .error (.unexpected fault) ↔
      ∃ item, files.read path = .ok item ∧
        (dataText? item = none ∧ fault = .notText ∨
          ∃ text, dataText? item = some text ∧ Overtaxes text fault) := by
  unfold readData
  cases isRead : files.read path with
  | error problem =>
    constructor
    · intro unexpected
      cases unexpected
    · rintro ⟨item, isItem, -⟩
      cases isItem
  | ok item =>
    have only {found : Item} (same : Except.ok (ε := Fault) item = .ok found) : found = item := by
      cases same
      rfl
    cases item with
    | directory | archive entries =>
      constructor
      · intro unexpected
        cases unexpected
        exact ⟨_, rfl, .inl ⟨rfl, rfl⟩⟩
      · rintro ⟨found, isFound, ⟨-, rfl⟩ | ⟨text, isText, -⟩⟩
        · rfl
        · cases only isFound
          cases isText
    | bytes content =>
      dsimp only
      cases isText : String.fromUTF8? content with
      | none =>
        constructor
        · intro unexpected
          cases unexpected
          exact ⟨_, rfl, .inl ⟨isText, rfl⟩⟩
        · rintro ⟨found, isFound, ⟨-, rfl⟩ | ⟨text, isOther, -⟩⟩
          · rfl
          · cases only isFound
            rw [dataText?, isText] at isOther
            cases isOther
      | some text =>
        dsimp only
        constructor
        · intro unexpected
          refine ⟨_, rfl, .inr ⟨text, isText, ?_⟩⟩
          split at unexpected <;> cases unexpected
          · rename_i unread
            exact .nesting unread
          · rename_i unread
            exact .digits unread
        · rintro ⟨found, isFound, ⟨noText, -⟩ | ⟨other, isOther, overtaxes⟩⟩
          · cases only isFound
            rw [dataText?, isText] at noText
            cases noText
          · cases only isFound
            rw [dataText?, isText] at isOther
            cases isOther
            cases overtaxes with
            | nesting unread | digits unread => rw [unread]

/-! ## Documents -/

/-- What comes of making the document that arguments name, with some data. -/
def Arguments.making (arguments : Arguments) (files : Files) (data : Json) : Work.Outcome Path :=
  Work.run arguments.isLenient [] ⟨files, #[]⟩
    (Work.deliver ⟨.arguments, arguments.options, data⟩ none)

/-- An option is null when it is not given, and its text otherwise. -/
theorem Arguments.options_cases (arguments : Arguments) {name : String} {value : Option String}
    (named : (name, value) ∈
      [("template_file", arguments.template), ("output_file", arguments.output)]) :
    value = none ∧ arguments.options.lookup name = some .null ∨
      ∃ text, value = some text ∧ arguments.options.lookup name = some (.text text) := by
  rw [List.mem_cons, List.mem_singleton] at named
  obtain same | same := named
  · obtain ⟨rfl, rfl⟩ := Prod.mk.inj same
    change _ ∧ some _ = _ ∨ ∃ text, _ ∧ some _ = _
    cases arguments.template with
    | none => exact .inl ⟨rfl, rfl⟩
    | some text => exact .inr ⟨text, rfl, rfl⟩
  · obtain ⟨rfl, rfl⟩ := Prod.mk.inj same
    change _ ∧ some _ = _ ∨ ∃ text, _ ∧ some _ = _
    cases arguments.output with
    | none => exact .inl ⟨rfl, rfl⟩
    | some text => exact .inr ⟨text, rfl, rfl⟩

theorem Arguments.namesFiles (arguments : Arguments) (data : Json) :
    Work.Order.NamesFiles ⟨.arguments, arguments.options, data⟩ := by
  intro name isName
  have ⟨value, named⟩ : ∃ value, (name, value) ∈
      [("template_file", arguments.template), ("output_file", arguments.output)] := by
    rw [List.mem_cons, List.mem_singleton] at isName
    obtain rfl | rfl := isName
    · exact ⟨_, .head _⟩
    · exact ⟨_, .tail _ (.head _)⟩
  obtain ⟨-, isNull⟩ | ⟨text, -, isText⟩ := arguments.options_cases named
  · exact .inl isNull
  · exact .inr ⟨text, isText⟩

/-- The letter's file that arguments name holds an archive, and the document shall be there. -/
structure Arguments.Copies (arguments : Arguments) (files : Files) (archive : Archive)
    (target : Path) : Prop where
  archive : ∃ template, arguments.template = some template ∧
    Package.archiveAt? files (.ofString template) = some archive
  target : ∃ output, arguments.output = some output ∧ target = .ofString output

/-- A document that is not made for a fault that the program is not made to report is one of a
letter that is refused. -/
theorem making_eq_error {data : Json} {fault : Fault}
    (failed : (arguments.making files data).result = .error fault)
    (untold : isReported fault = false) :
    ∃ archive target, arguments.Copies files archive target ∧
      Work.Untold (Package.ofArchive target archive) fault := by
  have given {name : String} {path : Path} {value : Option String}
      (named : (name, value) ∈
        [("template_file", arguments.template), ("output_file", arguments.output)])
      (gives : Work.Order.Gives ⟨.arguments, arguments.options, data⟩ name path) :
      ∃ text, value = some text ∧ path = .ofString text := by
    obtain ⟨text, isText, rfl⟩ := gives
    change arguments.options.lookup name = _ at isText
    obtain ⟨-, isNull⟩ | ⟨other, isSome, isOther⟩ := arguments.options_cases named
    · rw [isNull] at isText
      cases isText
    · rw [isOther] at isText
      cases isText
      exact ⟨_, isSome, rfl⟩
  rcases Work.deliver_refused (arguments.namesFiles data) _ fault failed with
    told | ⟨source, target, archive, template, output, isArchive, reason⟩
  · rw [untold] at told
    cases told
  · obtain ⟨text, isTemplate, rfl⟩ := given (.head _) template
    exact ⟨archive, target, ⟨⟨text, isTemplate, isArchive⟩, given (.tail _ (.head _)) output⟩, reason⟩

/-- The noted labels can be listed when all of them are texts, and cannot otherwise. -/
theorem undefinedLine_cases (recorded : List Label) :
    ((∀ label ∈ recorded, ∃ name, label = .text name) ∧
      ∃ lines, undefinedLine recorded = .ok lines) ∨
    (∃ label ∈ recorded, ∀ name, label ≠ .text name) ∧
      undefinedLine recorded = .error (.trouble (.kind (.joinedItem 0 "int"))) := by
  unfold undefinedLine
  by_cases texts : ∀ label ∈ recorded, ∃ name, label = .text name
  · left
    refine ⟨texts, ?_⟩
    dsimp only
    rw [if_neg]
    · split
      · exact ⟨_, rfl⟩
      · exact ⟨_, rfl⟩
    · rw [List.filterMap_length_eq_length.mpr]
      · exact Nat.lt_irrefl _
      · intro label member
        obtain ⟨name, rfl⟩ := texts label member
        rfl
  · right
    have odd : ∃ label ∈ recorded, ∀ name, label ≠ .text name := by
      simpa using texts
    refine ⟨odd, ?_⟩
    obtain ⟨label, member, noText⟩ := odd
    dsimp only
    rw [if_pos]
    refine Nat.lt_of_le_of_ne (List.length_filterMap_le _ _) fun same => ?_
    have listed := List.filterMap_length_eq_length.mp same label member
    cases label with
    | text name => exact noText name rfl
    | int n => cases listed
    | other shown => cases listed

/-! ## Whole runs -/

/-- What number a run ends with when it meets with no other fault. -/
inductive Answers (files : Files) (arguments : Arguments) : Nat → Prop
  /-- The data cannot be read. -/
  | noData {problem : DataProblem} (unread : arguments.dataIn files = .error problem) :
    Answers files arguments 2
  /-- The document cannot be made. -/
  | notMade {data : Json} {fault : Fault} (isRead : arguments.dataIn files = .ok data)
    (failed : (arguments.making files data).result = .error fault) : Answers files arguments 1
  /-- The document was made. -/
  | made {data : Json} {path : Path} (isRead : arguments.dataIn files = .ok data)
    (done : (arguments.making files data).result = .ok path) : Answers files arguments 0

/-- The faults for which a run ends without a number. -/
inductive Escapes (files : Files) (arguments : Arguments) : Fault → Prop
  /-- The data is no text. -/
  | noText {item : Item} (given : arguments.data.getD "" ≠ "")
    (isItem : files.read (.ofString (arguments.data.getD "")) = .ok item)
    (noText : dataText? item = none) : Escapes files arguments .notText
  /-- The data asks for too much. -/
  | overtaxed {item : Item} {text : String} {fault : Fault} (given : arguments.data.getD "" ≠ "")
    (isItem : files.read (.ofString (arguments.data.getD "")) = .ok item)
    (isText : dataText? item = some text) (overtaxes : Overtaxes text fault) :
    Escapes files arguments fault
  /-- The letter is refused for what its file is, or for the name of a picture. -/
  | refused {data : Json} {archive : Archive} {target : Path} {fault : Fault}
    (isRead : arguments.dataIn files = .ok data)
    (failed : (arguments.making files data).result = .error fault)
    (copies : arguments.Copies files archive target)
    (untold : Work.Untold (Package.ofArchive target archive) fault) : Escapes files arguments fault
  /-- The document was made, and the label of something undefined is no text. -/
  | oddLabel {data : Json} {path : Path} {label : Label}
    (isRead : arguments.dataIn files = .ok data)
    (done : (arguments.making files data).result = .ok path)
    (member : label ∈ (arguments.making files data).recorded)
    (odd : ∀ name, label ≠ .text name) :
    Escapes files arguments (.trouble (.kind (.joinedItem 0 "int")))

/-- The end of a run fits what happened: it is a number, or a fault for which there is none. -/
def Fits (files : Files) (arguments : Arguments) (ended : Except Fault Ended) : Prop :=
  match ended with
  | .ok ended => Answers files arguments ended.exit
  | .error fault => Escapes files arguments fault

/-- When the document cannot be made, the run reports the fault or breaks off with it. -/
theorem ended_deliver_of_error {data : Json} {fault : Fault}
    (failed : (arguments.making files data).result = .error fault) :
    (isReported fault = true ∧ ∃ log,
      (deliver files arguments data).ended =
        .ok (CommandLine.failed 1 log fault.message (some fault))) ∨
    isReported fault = false ∧ (deliver files arguments data).ended = .error fault := by
  unfold Arguments.making at failed
  unfold deliver
  dsimp only
  rw [failed]
  dsimp only
  cases told : isReported fault with
  | true => exact .inl ⟨rfl, _, if_pos rfl⟩
  | false => exact .inr ⟨rfl, if_neg Bool.false_ne_true⟩

/-- When the document is made, it remains to list the undefined names. -/
theorem ended_deliver_of_ok {data : Json} {path : Path}
    (done : (arguments.making files data).result = .ok path) :
    ∃ log : List Log.Line → List Log.Line, (deliver files arguments data).ended =
      (undefinedLine (arguments.making files data).recorded).map
        fun warning => ⟨0, log warning, "", none, none⟩ := by
  unfold Arguments.making at done
  unfold deliver
  dsimp only
  rw [done]
  exact ⟨fun warning => _ ++ warning ++ [_], rfl⟩

/-- A run that has its data ends with the document, or with what kept it from being made. -/
theorem fits_deliver {data : Json} (isRead : arguments.dataIn files = .ok data) :
    Fits files arguments (deliver files arguments data).ended := by
  cases done : (arguments.making files data).result with
  | error fault =>
    obtain ⟨-, log, told⟩ | ⟨untold, escaped⟩ := ended_deliver_of_error done
    · rw [told]
      exact .notMade isRead done
    · obtain ⟨archive, target, copies, reason⟩ := making_eq_error done untold
      rw [escaped]
      exact .refused isRead done copies reason
  | ok path =>
    obtain ⟨log, ended⟩ := ended_deliver_of_ok done
    rw [ended]
    rcases undefinedLine_cases (arguments.making files data).recorded with
      ⟨-, lines, listed⟩ | ⟨⟨label, member, odd⟩, unlisted⟩
    · rw [listed]
      exact .made isRead done
    · rw [unlisted]
      exact .oddLabel isRead done member odd

theorem fits_runArguments : Fits files arguments (runArguments files arguments).ended := by
  unfold runArguments
  dsimp only
  split
  · rename_i absent
    exact fits_deliver (if_pos absent)
  · rename_i given
    have same : arguments.dataIn files = readData files (.ofString (arguments.data.getD "")) :=
      if_neg given
    split
    · rename_i data isRead
      exact fits_deliver (same.trans isRead)
    · rename_i fault unread
      exact .noData (same.trans unread)
    · rename_i error unread
      exact .noData (same.trans unread)
    · rename_i fault unread
      have named : arguments.data.getD "" ≠ "" := by simpa using given
      obtain ⟨item, isItem, ⟨noText, rfl⟩ | ⟨text, isText, overtaxes⟩⟩ :=
        readData_unexpected_iff.mp unread
      · exact .noText named isItem noText
      · exact .overtaxed named isItem isText overtaxes

/-- Each of the faults for which a run ends without a number breaks it off. -/
theorem ended_of_escapes {fault : Fault} (escapes : Escapes files arguments fault) :
    (runArguments files arguments).ended = .error fault := by
  have unread (given : arguments.data.getD "" ≠ "")
      (unexpected : readData files (.ofString (arguments.data.getD "")) = .error (.unexpected fault)) :
      (runArguments files arguments).ended = .error fault := by
    unfold runArguments
    dsimp only
    rw [if_neg (by simpa using given), unexpected]
  have delivers {data : Json} (isRead : arguments.dataIn files = .ok data) :
      (runArguments files arguments).ended = (deliver files arguments data).ended := by
    unfold Arguments.dataIn at isRead
    unfold runArguments
    dsimp only
    split at isRead
    · rename_i absent
      cases isRead
      rw [if_pos absent]
    · rename_i given
      rw [if_neg given, isRead]
  cases escapes with
  | noText given isItem noText =>
    exact unread given (readData_unexpected_iff.mpr ⟨_, isItem, .inl ⟨noText, rfl⟩⟩)
  | overtaxed given isItem isText overtaxes =>
    exact unread given (readData_unexpected_iff.mpr ⟨_, isItem, .inr ⟨_, isText, overtaxes⟩⟩)
  | @refused data archive target _ isRead failed copies untold =>
    rw [delivers isRead]
    obtain ⟨told, -⟩ | ⟨-, escaped⟩ := ended_deliver_of_error failed
    · rw [untold.not_reported] at told
      cases told
    · exact escaped
  | @oddLabel data path label isRead done member odd =>
    obtain ⟨log, ended⟩ := ended_deliver_of_ok done
    rw [delivers isRead, ended]
    rcases undefinedLine_cases (arguments.making files data).recorded with
      ⟨texts, -⟩ | ⟨-, unlisted⟩
    · obtain ⟨name, isText⟩ := texts label member
      exact absurd isText (odd name)
    · rw [unlisted]
      rfl

/-- A letter that can be made into a document. -/
def soundFiles : Files := [(["t.odt"], .archive Work.emptyArchive)]

/-- A letter and data that is no text, a letter without styles, and one whose code takes an item that
is not there. -/
def brokenFiles : Files :=
  [(["t.odt"], .archive Work.emptyArchive), (["d.json"], .bytes ⟨#[34, 255, 34]⟩),
    (["one.odt"], .archive (Work.emptyArchive.take 1)),
    (["odd.odt"], .archive [⟨"content.xml", ⟨.deflated, 1, .earliest⟩,
        "<a><!--<% if [][0] %><% endif %>--></a>".toUTF8⟩,
      ⟨"styles.xml", ⟨.deflated, 1, .earliest⟩, "<a/>".toUTF8⟩])]

end FormLetter.CommandLine
