import NewsWire.Article.Content
import NewsWire.Command.Invocation
import NewsWire.Proofs.Restore

/-!
# What is written is read

Requests, responses, payloads and contents leave the program as JSON and come back into it as JSON.
For each of them the decoder undoes the encoder, in the compact form as well as in the laid-out one
(`Decoder.Undoes`), and a response is read off what a run prints (`parse_contract`). A payload
leaves its absent fields out, a content writes them as null.

There are no hypotheses about the texts in a record: every string can be written and read, with
control characters and quotation marks in it, and every word of 64 bits is read as the number that
it is. The decoder of a record is put together from those of its fields, and what remains to be said
of each record is under which keys its encoder writes them.
-/

namespace NewsWire

open NewsWire.Json

namespace Payload

theorem Body.restores_encode (b : Body) : Body.decoder.Restores b.encode b := by
  have htext : ∀ (name : String) (o : Option String),
      (Fields.nullable name Decoder.text).Restores [(name, o.map .string)] o :=
    fun name o ↦ Fields.restores_nullable name o Decoder.restores_text nofun
  have hpriority := Fields.restores_nullable "priority" b.priority Decoder.restores_int64 nofun
  have htexts : ∀ ss : List String, (Decoder.list .text).Restores (.ofTexts ss) ss :=
    fun ss ↦ Decoder.restores_list fun s _ ↦ Decoder.restores_text s
  have hfields := (Fields.restores_required "source" (Decoder.restores_text b.source)).map Body.mk
    |>.seq (Fields.restores_required "version" (Decoder.restores_text b.version))
    |>.seq (htext "type" b.kind)
    |>.seq (htext "status" b.status)
    |>.seq (htext "firstVersion" b.firstVersion)
    |>.seq (htext "versionCreated" b.versionCreated)
    |>.seq (htext "headline" b.headline)
    |>.seq (htext "byline" b.byline)
    |>.seq hpriority
    |>.seq (Fields.restores_required "keywords" (htexts b.keywords))
    |>.seq (htext "bodyText" b.bodyText)
    |>.seq (htext "abstract" b.summary)
    |>.seq (htext "originalContentText" b.originalText)
    |>.seq (htext "ednote" b.editorNote)
    |>.seq (Fields.restores_required "imageIds" (htexts b.imageIds))
  exact hfields.record "PayloadBody" (by simp)

theorem restores_encode (p : Payload) : Payload.decoder.Restores p.encode p := by
  have hfields := (Fields.restores_required "externalId" (Decoder.restores_text p.externalId)).map
      Payload.mk
    |>.seq (Fields.restores_required "body" p.body.restores_encode)
  exact hfields.record "CanonicalPayload" (by simp)

end Payload

namespace Article

theorem Content.restores_encode (c : Content) : Content.decoder.Restores c.encode c := by
  have htext : ∀ (name : String) (o : Option String),
      (Fields.nullable name Decoder.text).Restores [(name, some (.ofText? o))] o :=
    fun name o ↦ Fields.restores_orNull name o Decoder.restores_text nofun
  have hfields := (htext "body_content_html" c.body).map Content.mk
    |>.seq (htext "issue_date" c.issueDate)
    |>.seq (htext "byline" c.byline)
    |>.seq (htext "headline" c.headline)
    |>.seq (htext "summary" c.summary)
    |>.seq (htext "ed_message" c.editorMessage)
  exact hfields.record "ExtractedContent" (by simp)

end Article

namespace Poll

theorem Request.restores_encode (r : Request) : Request.decoder.Restores r.encode r := by
  have hfields := (Fields.restores_required "credential" (Decoder.restores_text r.credential)).map
      Request.mk
    |>.seq (Fields.restores_required "cursor" (Decoder.restores_text r.cursor))
    |>.seq (Fields.restores_optional "attemptBudget" r.attemptBudget Decoder.restores_word32 nofun)
    |>.seq (Fields.restores_optional "retryDelayMs" r.retryDelayMs Decoder.restores_word64 nofun)
  exact hfields.record "PollRequest" (by simp)

theorem Response.restores_encode (r : Response) : Response.decoder.Restores r.encode r := by
  have hpayloads : (Decoder.list Payload.decoder).Restores (.array (r.payloads.map Payload.encode))
      r.payloads := Decoder.restores_list fun p _ ↦ p.restores_encode
  have hfields := (Fields.restores_required "payloads" hpayloads).map Response.mk
    |>.seq (Fields.restores_required "nextCursor" (Decoder.restores_text r.nextCursor))
  exact hfields.record "PollResponse" (by simp)

end Poll

/-- **What is written is read.** Each request, response, payload and content is read off both forms
of its JSON, and a response off what a run prints. -/
theorem parse_contract :
    Poll.Request.decoder.Undoes Poll.Request.encode ∧
      Poll.Response.decoder.Undoes Poll.Response.encode ∧
      Payload.decoder.Undoes Payload.encode ∧
      Article.Content.decoder.Undoes Article.Content.encode ∧
      ∀ stage response, Poll.Response.decoder.parse
        (Command.Stop.ofReport ⟨stage, .ok response⟩).output.toList = .ok response := by
  refine ⟨Decoder.undoes_of_restores Poll.Request.restores_encode,
    Decoder.undoes_of_restores Poll.Response.restores_encode,
    Decoder.undoes_of_restores Payload.restores_encode,
    Decoder.undoes_of_restores Article.Content.restores_encode, ?_⟩
  intro stage response
  -- A run ends the line that it prints.
  have hprinted : (Command.Stop.ofReport ⟨stage, .ok response⟩).output.toList =
      response.encode.layout 0 ++ ['\n'] := by
    simp [Command.Stop.ofReport, Value.toLayout]
  rw [hprinted]
  exact response.restores_encode.parse (response.encode.spells_layout 0)
    (List.forall_mem_singleton.mpr rfl)

end NewsWire
