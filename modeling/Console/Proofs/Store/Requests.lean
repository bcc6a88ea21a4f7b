import Console.Proofs.Store.Calls
import Console.Proofs.Store.File

/-! Requests to a store, and what answers them. A store in a file answers every run of requests as
    memory does that holds what the file gives at the start, and after each request the file gives
    what memory holds, as long as nothing fails on the files. Where the first save can be made,
    nothing does. -/

namespace Console

/-- A request to a store. -/
inductive Request where
  | loadHistory (title : Text)
  | saveHistory (title : Text) (commands : List Text)
  | loadSize
  | saveSize (size : Nat)
  deriving DecidableEq

/-- What a store gives in answer. -/
inductive Response where
  | history (commands : Option (List Text))
  | size (size : Option Nat)
  | saved
  deriving DecidableEq, Repr

namespace Store

variable {σ : Type} [Store σ]

/-- Makes the call of a request. -/
def answer (s : σ) : Request → Call σ Response
  | .loadHistory title => (Store.loadHistory s title).map (·.map .history) id
  | .saveHistory title commands => (Store.saveHistory s title commands).map (·.map fun _ => .saved) id
  | .loadSize => (Store.loadSize s).map (·.map .size) id
  | .saveSize size => (Store.saveSize s size).map (·.map fun _ => .saved) id

/-- The answers to requests, made one after the other. -/
def answers (s : σ) : List Request → List (Except Fault Response)
  | [] => []
  | request :: requests => (answer s request).1 :: answers (answer s request).2 requests

/-- The store after requests. -/
def after (s : σ) (requests : List Request) : σ :=
  requests.foldl (fun s request => (answer s request).2) s

theorem after_append (s : σ) (front back : List Request) :
    after s (front ++ back) = after (after s front) back := List.foldl_append

theorem answers_append (s : σ) (front back : List Request) :
    answers s (front ++ back) = answers s front ++ answers (after s front) back := by
  induction front generalizing s with
  | nil => rfl
  | cons request front ih => rw [List.cons_append, answers, ih]; rfl

end Store

/-- Whether a request asks for nothing that 64 bits cannot hold. -/
def Request.fits : Request → Bool
  | .saveSize size => size < Word.limit
  | _ => true

namespace FileStore

open Store

/-- A file gives what memory holds, and keeps what it is given. -/
structure Mirrors (s : FileStore) (content : Stored) : Prop where
  read : s.read = .ok content
  keeps : s.keeps = true

/-- A request fails on files that do not take a save. Else it is answered as in memory, the file
    gives what memory holds, and files that took saves take them still. -/
theorem Mirrors.answer {s : FileStore} {content : Stored} (h : Mirrors s content)
    {request : Request} (hfits : request.fits = true) :
    failsOnFiles (Store.answer s request).1 = true ∧ s.takes = false ∨
      (Store.answer s request).1 = (Store.answer content request).1 ∧
        Mirrors (Store.answer s request).2 (Store.answer content request).2 ∧
        (s.takes = true → (Store.answer s request).2.takes = true) := by
  cases request with
  | loadHistory title =>
    refine .inr ⟨?_, h, id⟩
    show (s.read.map _).map _ = _
    rw [h.read]
    rfl
  | loadSize =>
    refine .inr ⟨?_, h, id⟩
    show (s.read.map _).map _ = _
    rw [h.read]
    rfl
  | saveHistory title commands =>
    obtain ⟨hfails, htakes⟩ | ⟨hok, hread, hkeeps, htakes⟩ := modify_cases h.read h.keeps
      (fun c => { c with buckets := c.buckets.insert title commands })
      (fun n hn => size_lt_of_read h.read n hn)
    · exact .inl ⟨(failsOnFiles_map _ _).trans hfails, htakes⟩
    · exact .inr ⟨congrArg (Except.map fun _ => Response.saved) hok, ⟨hread, hkeeps⟩,
        fun _ => htakes⟩
  | saveSize size =>
    obtain ⟨hfails, htakes⟩ | ⟨hok, hread, hkeeps, htakes⟩ := modify_cases h.read h.keeps
      (fun c => { c with size := some size })
      (by simpa [Request.fits, Json.naturalLimit] using hfits)
    · exact .inl ⟨(failsOnFiles_map _ _).trans hfails, htakes⟩
    · exact .inr ⟨congrArg (Except.map fun _ => Response.saved) hok, ⟨hread, hkeeps⟩,
        fun _ => htakes⟩

/-- The same for requests one after the other. -/
theorem Mirrors.after {s : FileStore} {content : Stored} (h : Mirrors s content)
    {requests : List Request} (hfits : ∀ request ∈ requests, request.fits = true)
    (hfiles : ∀ answer ∈ answers s requests, failsOnFiles answer = false) :
    answers s requests = answers content requests ∧
      Mirrors (Store.after s requests) (Store.after content requests) := by
  induction requests generalizing s content with
  | nil => exact ⟨rfl, h⟩
  | cons request requests ih =>
    have hanswer : failsOnFiles (Store.answer s request).1 = false :=
      hfiles _ List.mem_cons_self
    obtain ⟨hfails, -⟩ | ⟨heq, hmirrors, -⟩ := h.answer (hfits request List.mem_cons_self)
    · rw [hanswer] at hfails
      exact nomatch hfails
    · obtain ⟨heqs, hafter⟩ := ih hmirrors (fun r hr => hfits r (List.mem_cons_of_mem _ hr))
        (fun a ha => hfiles a (List.mem_cons_of_mem _ ha))
      exact ⟨congrArg₂ List.cons heq heqs, hafter⟩

/-- Nothing fails on files that take the first save. -/
theorem Mirrors.answers_of_takes {s : FileStore} {content : Stored} (h : Mirrors s content)
    (htakes : s.takes = true) {requests : List Request}
    (hfits : ∀ request ∈ requests, request.fits = true) :
    ∀ answer ∈ answers s requests, failsOnFiles answer = false := by
  induction requests generalizing s content with
  | nil => exact fun _ ha => nomatch ha
  | cons request requests ih =>
    obtain ⟨-, hrefuses⟩ | ⟨heq, hmirrors, hnext⟩ := h.answer (hfits request List.mem_cons_self)
    · rw [htakes] at hrefuses
      exact nomatch hrefuses
    · refine List.forall_mem_cons.2 ⟨?_, ih hmirrors (hnext htakes) fun r hr =>
        hfits r (List.mem_cons_of_mem _ hr)⟩
      rw [heq]
      cases request <;> rfl

/-- A store in a file that gives some content at the start, be the file missing, blank or written by
    others. If the files take a save at the start, no request fails on them. And if none does, the
    store answers as memory does that held this content, and after each request the file gives what
    memory holds. A save of one title leaves the other titles and the size in the file as they
    were. -/
theorem refines_memory {s : FileStore} {content : Stored} {requests : List Request}
    (hread : s.read = .ok content) (hkeeps : s.keeps = true)
    (hfits : ∀ request ∈ requests, request.fits = true) :
    (s.takes = true → ∀ answer ∈ answers s requests, failsOnFiles answer = false) ∧
    ((∀ answer ∈ answers s requests, failsOnFiles answer = false) →
      answers s requests = answers content requests ∧
      (∀ done, done <+: requests → (Store.after s done).read = .ok (Store.after content done)) ∧
      ∀ done title commands, done ++ [.saveHistory title commands] <+: requests →
        ∃ before now, (Store.after s done).read = .ok before ∧
          (Store.after s (done ++ [.saveHistory title commands])).read = .ok now ∧
          now.size = before.size ∧ now.buckets.find? title = some commands ∧
          ∀ other, other ≠ title → now.buckets.find? other = before.buckets.find? other) := by
  have hmirrors : Mirrors s content := ⟨hread, hkeeps⟩
  refine ⟨fun htakes => hmirrors.answers_of_takes htakes hfits, fun hfiles => ?_⟩
  have hdone : ∀ done, done <+: requests →
      (Store.after s done).read = .ok (Store.after content done) := by
    rintro done ⟨later, rfl⟩
    refine (hmirrors.after (fun r hr => hfits r (List.mem_append_left _ hr))
      fun a ha => hfiles a ?_).2.read
    rw [answers_append]
    exact List.mem_append_left _ ha
  refine ⟨(hmirrors.after hfits hfiles).1, hdone, fun done title commands h => ?_⟩
  refine ⟨_, _, hdone done ((List.prefix_append _ _).trans h), hdone _ h, ?_⟩
  rw [after_append content]
  exact ⟨rfl, Buckets.find?_insert_self _ title commands,
    fun other hne => Buckets.find?_insert_of_ne _ hne commands⟩

/-- Others have written the file, with a field that the store does not know and without a size. The
    titles and commands that are saved hold quotes, backslashes and control characters, or are
    empty. -/
theorem refines_memory_of_shared_file :
    ∃ (s : FileStore) (content : Stored) (requests : List Request),
      s.read = .ok content ∧ s.keeps = true ∧ s.takes = true ∧
      answers s requests = answers content requests ∧
      answers s requests = [.ok .saved, .ok .saved, .ok .saved,
        .ok (.history (some [['\\', '\x00'], []])), .ok (.history (some [['1']])),
        .ok (.size (some 18446744073709551615))] ∧
      (Store.after s requests).read = .ok (Store.after content requests) := by
  let text : Text :=
    "\x7b\"x\":[-1.5e9],\"command_history\":\x7b\"C\":[\"\\u0031\"]\x7d\x7d".toList
  let s : FileStore :=
    ⟨Files.empty.plant Files.root ['h'] (Text.toUtf8 text), Files.root, ['h']⟩
  let content : Stored := ⟨Buckets.empty.insert ['C'] [['1']], none⟩
  let requests : List Request := [.saveHistory ['"', '\n'] [['\\', '\x00'], []],
    .saveHistory [] [], .saveSize 18446744073709551615, .loadHistory ['"', '\n'],
    .loadHistory ['C'], .loadSize]
  have hread : s.read = .ok content := by decide +kernel
  have hkeeps : s.keeps = true := by decide +kernel
  have htakes : s.takes = true := by decide +kernel
  have hfits : ∀ request ∈ requests, request.fits = true := by decide
  obtain ⟨hworks, hmirrors⟩ := refines_memory hread hkeeps hfits
  obtain ⟨hanswers, hdone, -⟩ := hmirrors (hworks htakes)
  exact ⟨s, content, requests, hread, hkeeps, htakes, hanswers, hanswers.trans (by decide +kernel),
    hdone requests List.prefix_rfl⟩

end FileStore

end Console
