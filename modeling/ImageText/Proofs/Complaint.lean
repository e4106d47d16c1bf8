import ImageText.Proofs.Engine.Noise
import ImageText.Proofs.Engine.Ordinary
import ImageText.Proofs.Steady

/-!
# The message of a failure

An exception has a class and a text, and the process prints both behind whatever the engine has written.
On this side the error stream is decoded, and its last visible line becomes the message of the failure. In
UTF-8 and behind whole lines, that is the last visible line of what was printed for the exception, with
the white space around it taken away:

> `failure_told`: the message for an exception of a recognition, and for one of an import.

There is always such a line, because the colon behind the class can be seen. If the exception's text is a
single line, it is reported as a whole; of several lines only the last visible one is, and it may be the
one with the class if the others are blank.
-/

namespace ImageText

open Text (LastLine Visible lastLine? lossy)

namespace Engine

theorem ofString_append (s t : String) : ofString (s ++ t) = ofString s ++ ofString t := by
  rw [ofString, String.toList_append, ofChars_append]
  rfl

theorem visible_colon {text : String} (h : ':' ∈ text.toList) : Visible text.toList :=
  ⟨':', h, by decide⟩

/-- The stream of a printed line is the line. -/
theorem lossy_line (text : String) :
    lossy (stream .utf8 [.line (ofString text)]) = text.toList ++ '\n' :: [] := by
  have hbytes : stream .utf8 [.line (ofString text)] = Text.encode text.toList ++ 0x0A :: [] := by
    rw [stream, List.flatMap_singleton, Noise.line, Noise.bytes,
      Encoding.printed_line (by decide), ofString, Encoding.printed_chars]
  rw [hbytes, Text.lossy_lineFeed, Text.lossy_encode]
  rfl

/-- **Behind whole lines, a printed text is read by its last visible line.** -/
theorem lastLine?_printed {noise : List Noise} (h : WholeLines noise) {text : String}
    (hvisible : Visible text.toList) :
    lastLine? (lossy (stream .utf8 (noise ++ [.line (ofString text)]))) = lastLine? text.toList := by
  have hline : Visible (lossy (stream .utf8 [.line (ofString text)])) := by
    rw [lossy_line]
    exact Text.visible_lineFeed.mpr (Or.inl hvisible)
  rw [lastLine?_wholeLines (by decide) h hline, lossy_line,
    Text.lastLine?_blank _ Text.not_visible_nil]

/-- The last visible line of a text of a single line is the text. -/
theorem lastLine_single {text line : List Char} (h : LastLine text line) (hsingle : '\n' ∉ text) :
    line = Text.trim text := by
  have hfound := Text.lastLine?_of_lastLine h
  rw [Text.lastLine?_visible hsingle (Text.visible_of_eq_some hfound)] at hfound
  exact (Option.some.inj hfound).symm

/-- What is printed for an exception after the import. -/
theorem failed_printed (noise : List Noise) (kind message : String) :
    failed noise ⟨ofString kind, ofString message, none⟩
      = ⟨[], noise ++ [.line (ofString (kind ++ ": " ++ message))], .code failedCode⟩ := by
  rw [ofString_append, ofString_append]
  rfl

/-- What is printed for an exception of the import. -/
theorem unimportable_printed (noise : List Noise) (name : CodePoints) (message : String) :
    unimportable noise ⟨name, ofString message, none⟩
      = ⟨[], noise ++ [.line (ofString ("cannot import paddleocr: " ++ message))],
          .code unavailableCode⟩ := by
  rw [ofString_append]
  rfl

end Engine

namespace Bridge

variable {σ : Type}

/-- A process that printed a text behind whole lines complains with the last visible line of the
text. -/
theorem complaint_printed {noise : List Engine.Noise} (h : Engine.WholeLines noise) {text : String}
    (hcolon : ':' ∈ text.toList) (stdout : Bytes) (x : Exit) :
    ∃ line, LastLine text.toList line
      ∧ complaint (Engine.Ending.finished .utf8
          ⟨stdout, noise ++ [.line (Engine.ofString text)], x⟩) = String.ofList line := by
  have hvisible := Engine.visible_colon hcolon
  obtain ⟨line, hline⟩ := Text.exists_lastLine hvisible
  refine ⟨line, Text.lastLine_of_eq_some hline, ?_⟩
  have hfound := (Engine.lastLine?_printed h hvisible).trans hline
  rw [complaint, show (Engine.Ending.finished .utf8 ⟨stdout,
    noise ++ [.line (Engine.ofString text)], x⟩).stderr
      = Engine.stream .utf8 (noise ++ [.line (Engine.ofString text)]) from rfl, hfound]
  rfl

/-- **The message of a failure survives.** The error stream is in UTF-8, and what the engine has written
before are whole lines. If building the engine, asking it or writing its answer raises an ordinary
exception, then a recognition of a file fails with the last visible line of the class, a colon and the
text of the exception, trimmed. If importing it does, then it cannot be loaded, and the message is the
last visible line of the words for that and the text, trimmed. A text of a single line is reported as a
whole. -/
theorem failure_told {host : Host (StateM σ)} {found : Path → Bool}
    {refused : Command → Option SystemError} {b : Bridge} {e : Engine} (hembedded : b.script = none)
    (hruns : Runs host .utf8 (some e) found refused) (note : Record → StateM σ Unit) (s : σ) :
    (∀ (image : Path) (o : Options) (noise : List Engine.Noise) (kind message : String),
        found image = true → refused (b.recognizing image o) = none →
        Engine.Imported (some e) e →
        e.Course (Engine.ofArgument image) (Engine.ofArgument o.encode) noise
          (.error ⟨Engine.ofString kind, Engine.ofString message, none⟩) →
        Engine.WholeLines (e.importing.noise ++ noise) →
        ∃ line, LastLine (kind ++ ": " ++ message).toList line
          ∧ (b.recognize host note image o s).1 = .error (.recognition (String.ofList line))
          ∧ ('\n' ∉ kind.toList → '\n' ∉ message.toList →
              line = Text.trim (kind ++ ": " ++ message).toList))
      ∧ ∀ (name : Engine.CodePoints) (message : String),
        refused b.probing = none →
        e.importing.result = .error ⟨name, Engine.ofString message, none⟩ →
        Engine.WholeLines e.importing.noise →
        ∃ line, LastLine ("cannot import paddleocr: " ++ message).toList line
          ∧ ((b.recognizer host note).load s).1
            = .error (.unavailable engineName (String.ofList line))
          ∧ ('\n' ∉ message.toList →
              line = Text.trim ("cannot import paddleocr: " ++ message).toList) := by
  constructor
  · intro image o noise kind message hfile hstarted himport hcourse hlines
    have hcolon : ':' ∈ (kind ++ ": " ++ message).toList := by simp
    obtain ⟨line, hline, hcomplaint⟩ :=
      complaint_printed hlines hcolon [] (.code Engine.failedCode)
    refine ⟨line, hline, ?_, fun hkind hmessage => Engine.lastLine_single hline (by simp [*])⟩
    have hcode : ∀ n, Engine.failedCode ≠ n → Exit.code Engine.failedCode ≠ .code n := by
      rintro n hn ⟨⟩
      exact hn rfl
    have hserve : Engine.serve .utf8 (some e) (b.recognizing image o).arguments
        = Engine.Ending.finished .utf8 ⟨[], (e.importing.noise ++ noise)
          ++ [.line (Engine.ofString (kind ++ ": " ++ message))], .code Engine.failedCode⟩ := by
      rw [← Engine.failed_printed, ← Engine.recognize_raised himport hcourse,
        ← Engine.ending_recognize]
      rfl
    rw [recognize_steady (hruns.steady hembedded image o), recognized, if_pos hfile, started, hstarted]
    dsimp only
    rw [hserve, reading, answer_broken _ (hcode 0 (by decide)) (hcode _ (by decide)), hcomplaint]
    rfl
  · intro name message hstarted hraised hlines
    have hcolon : ':' ∈ ("cannot import paddleocr: " ++ message).toList := by simp
    obtain ⟨line, hline, hcomplaint⟩ :=
      complaint_printed hlines hcolon [] (.code Engine.unavailableCode)
    refine ⟨line, hline, ?_, fun hmessage => Engine.lastLine_single hline (by simp [*])⟩
    have hun : Engine.Unimported (some e) ⟨name, Engine.ofString message, none⟩ :=
      Engine.unimported_iff.mpr hraised
    have hserve : Engine.serve .utf8 (some e) b.probing.arguments
        = Engine.Ending.finished .utf8 ⟨[], e.importing.noise
          ++ [.line (Engine.ofString ("cannot import paddleocr: " ++ message))],
            .code Engine.unavailableCode⟩ := by
      rw [← Engine.unimportable_printed _ name]
      exact congrArg _ ((Engine.ending_probe (some e)).trans (Engine.probe_unimported hun))
    show (b.probe host note s).1 = _
    rw [probe_steady (hruns.steady hembedded [] {}), started, hstarted]
    dsimp only
    rw [hserve, answer_absent _ rfl, hcomplaint]
    rfl

/-- An engine that writes something on its way and fails with a text of several lines. -/
def wordyEngine : Engine :=
  Stage.StandIn.engine
    { noise := ["loading"]
      nativeNoise := ["RuntimeError: no image"]
      ocrError := some ⟨Engine.ofString "ValueError", Engine.ofString "no text\nat all \n\n", none⟩ }

/-- An engine whose import fails behind a line that looks like another report. -/
def brokenEngine : Engine :=
  Stage.StandIn.engine
    { noise := ["cannot import paddleocr: no"]
      importError := some ⟨Engine.ofString "ImportError", Engine.ofString " libGL ", none⟩ }

/-- The last line of the text is reported for the one, and the whole line for the other. -/
theorem failure_told_lines :
    (recognize (m := StateM Unit) (servingHost (some wordyEngine)) (fun _ => pure ()) ⟨[], none⟩
        [0x61] {} ()).1 = .error (.recognition "at all")
      ∧ ((recognizer (m := StateM Unit) (servingHost (some brokenEngine)) (fun _ => pure ())
          ⟨[], none⟩).load ()).1
        = .error (.unavailable engineName "cannot import paddleocr:  libGL") := by
  constructor
  · have hbuilt := (answers_standIn [0x61] {} .null).built
    have hlines := Engine.wholeLines_append (Engine.wholeLines_printed ["loading"])
      (Engine.wholeLines_native ["RuntimeError: no image"])
    obtain ⟨line, hline, hresult, -⟩ := (failure_told (b := ⟨[], none⟩) rfl
      (runs_servingHost (some wordyEngine)) (fun _ => pure ()) ()).1 [0x61] {} _
        "ValueError" "no text\nat all \n\n" rfl rfl ⟨rfl, rfl⟩
        (.unanswered (Engine.load_named {}) hbuilt rfl) hlines
    have hlast : lastLine? ("ValueError" ++ ": " ++ "no text\nat all \n\n").toList
        = some "at all".toList := by decide
    rw [Text.lastLine?_of_lastLine hline] at hlast
    rw [hresult, Option.some.inj hlast, String.ofList_toList]
  · obtain ⟨line, -, hresult, hwhole⟩ := (failure_told (b := ⟨[], none⟩) rfl
      (runs_servingHost (some brokenEngine)) (fun _ => pure ()) ()).2 (Engine.ofString "ImportError")
        " libGL " rfl rfl (Engine.wholeLines_printed ["cannot import paddleocr: no"])
    have htrim : Text.trim ("cannot import paddleocr: " ++ " libGL ").toList
        = "cannot import paddleocr:  libGL".toList := by decide
    rw [hresult, hwhole (by decide), htrim, String.ofList_toList]

end Bridge

end ImageText
