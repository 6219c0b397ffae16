import Mathlib

/-! # The text of an email

The email sink puts the sender, the address and the subject into header lines without looking at
them. `net/smtp` refuses line breaks in the sender and the address only, and it ends a line at
every line feed, as a receiver does that splits the text again. -/

namespace Parsec.Sinks.Email

def render (sender address subject body : String) : String :=
  "From: " ++ sender ++ "\r\nTo: " ++ address ++ "\r\nSubject: " ++ subject ++ "\r\n\r\n" ++ body

def broken (line : String) : Bool := '\r' ∈ line.toList ∨ '\n' ∈ line.toList

def send (sender address subject body : String) : Except String String :=
  if address = "" then .error "email recipient address is empty"
  else if broken sender ∨ broken address then
    .error "smtp send: smtp: A line must not contain CR or LF"
  else .ok (render sender address subject body)

def chomp (line : List Char) : List Char :=
  if line.getLast? = some '\r' then line.dropLast else line

def parseHeader (line : List Char) : Option (String × String) :=
  match line.dropWhile (· ≠ ':') with
  | ':' :: ' ' :: value => some (.ofList (line.takeWhile (· ≠ ':')), .ofList value)
  | _ => none

def parseMessage (text : String) : Option (List (String × String) × String) :=
  let lines := text.toList.splitOn '\n'
  match lines.dropWhile (chomp · ≠ []) with
  | [] => none
  | _ :: rest =>
    ((lines.takeWhile (chomp · ≠ [])).mapM fun line => parseHeader (chomp line)).map
      (·, .ofList (['\n'].intercalate rest))

def header (name value : String) : List Char := name.toList ++ ':' :: ' ' :: value.toList

theorem not_mem_of_mem_lines {text line : List Char} (listed : line ∈ text.splitOn '\n') :
    '\n' ∉ line := by
  induction text generalizing line with
  | nil => simp_all
  | cons char text induction =>
    rw [List.splitOn_cons_eq_if_modifyHead] at listed
    split_ifs at listed with feed
    · rcases List.mem_cons.mp listed with rfl | later
      · exact List.not_mem_nil
      · exact induction later
    · rcases List.exists_cons_of_ne_nil (List.splitOn_ne_nil '\n' text) with ⟨first, rest, lines⟩
      rw [lines, List.modifyHead_cons] at listed
      rw [lines] at induction
      rcases List.mem_cons.mp listed with rfl | later
      · rw [List.mem_cons, not_or]
        exact ⟨fun same => feed (by simp [← same]), induction List.mem_cons_self⟩
      · exact induction (List.mem_cons_of_mem _ later)

private theorem lines_append {line : List Char} (whole : '\n' ∉ line) (rest : List Char) :
    (line ++ '\r' :: '\n' :: rest).splitOn '\n' = (line ++ ['\r']) :: rest.splitOn '\n' := by
  have plain : '\n' ∉ line ++ ['\r'] := by simp [whole]
  have cut := List.splitOn_append_cons_self_of_not_mem plain rest
  rwa [List.append_assoc, List.singleton_append] at cut

theorem chomp_subset (line : List Char) : chomp line ⊆ line := by
  unfold chomp
  split
  · exact List.dropLast_subset line
  · exact List.Subset.refl line

private theorem chomp_concat (line : List Char) : chomp (line ++ ['\r']) = line := by
  simp [chomp]

variable {name value : String} {line : List Char}

theorem eq_header (parsed : parseHeader line = some (name, value)) : line = header name value := by
  unfold parseHeader at parsed
  split at parsed
  · rename_i rest remaining
    cases parsed
    have whole := List.takeWhile_append_dropWhile (p := (· ≠ ':')) (l := line)
    rw [remaining] at whole
    simpa [header] using whole.symm
  · cases parsed

theorem parseHeader_header (name : String) (plain : ':' ∉ name.toList) :
    parseHeader (header name value) = some (name, value) := by
  have other : ∀ char ∈ name.toList, decide (char ≠ ':') = true := by
    intro char member
    rw [decide_eq_true_iff]
    rintro rfl
    exact plain member
  rw [parseHeader, header, List.dropWhile_append_of_pos other, List.takeWhile_append_of_pos other]
  simp

theorem of_mem_headers {lines : List (List Char)} {headers : List (String × String)}
    (parsed : (lines.mapM fun line => parseHeader (chomp line)) = some headers)
    (listed : (name, value) ∈ headers) : ∃ line ∈ lines, chomp line = header name value := by
  induction lines generalizing headers with
  | nil =>
    cases parsed
    cases listed
  | cons line lines induction =>
    rw [List.mapM_cons] at parsed
    rcases Option.bind_eq_some_iff.mp parsed with ⟨entry, first, parsed⟩
    rcases Option.bind_eq_some_iff.mp parsed with ⟨rest, others, same⟩
    cases same
    rcases List.mem_cons.mp listed with rfl | later
    · exact ⟨line, List.mem_cons_self, eq_header first⟩
    · rcases induction others later with ⟨line, member, same⟩
      exact ⟨line, List.mem_cons_of_mem _ member, same⟩

theorem not_mem_header {char : Char} (name : String) (other : char ∉ name.toList ++ [':', ' '])
    (absent : char ∉ value.toList) : char ∉ header name value := by
  simp only [header, List.mem_append, List.mem_cons, not_or] at other ⊢
  exact ⟨other.1, other.2.1, other.2.2.1, absent⟩

theorem not_mem_of_broken {line : String} (whole : broken line = false) : '\n' ∉ line.toList :=
  (not_or.mp (of_decide_eq_false whole)).2

theorem parseMessage_render {sender address subject : String} (whole : '\n' ∉ sender.toList)
    (unbroken : '\n' ∉ address.toList) (plain : '\n' ∉ subject.toList) (body : String) :
    parseMessage (render sender address subject body) =
      some ([("From", sender), ("To", address), ("Subject", subject)], body) := by
  have text : (render sender address subject body).toList =
      header "From" sender ++ '\r' :: '\n' :: (header "To" address ++ '\r' :: '\n' ::
        (header "Subject" subject ++ '\r' :: '\n' :: ([] ++ '\r' :: '\n' :: body.toList))) := by
    simp [render, header]
  simp only [parseMessage, text]
  rw [lines_append (not_mem_header "From" (by decide) whole),
    lines_append (not_mem_header "To" (by decide) unbroken),
    lines_append (not_mem_header "Subject" (by decide) plain), lines_append (by simp)]
  have filled : ∀ name value, header name value ≠ [] := by simp [header]
  simp only [List.dropWhile_cons, List.takeWhile_cons, chomp_concat, ne_eq, filled,
    not_false_eq_true, decide_true, if_true, not_true_eq_false, decide_false,
    Bool.false_eq_true, if_false, List.mapM_cons, List.mapM_nil, List.intercalate_splitOn,
    parseHeader_header "From" (by decide), parseHeader_header "To" (by decide),
    parseHeader_header "Subject" (by decide), String.ofList_toList]
  rfl

/-- The receiver finds the three headers and the body in everything that is sent just when the
address is refused or the subject has no line feed. -/
theorem headers_found_iff {sender : String} (whole : broken sender = false)
    (address subject body : String) :
    (∀ text, send sender address subject body = .ok text →
      parseMessage text = some ([("From", sender), ("To", address), ("Subject", subject)], body)) ↔
      address = "" ∨ broken address = true ∨ '\n' ∉ subject.toList := by
  by_cases refused : address = "" ∨ broken address = true
  · refine iff_of_true ?_ (refused.elim .inl fun broken => .inr (.inl broken))
    intro text sent
    rw [send] at sent
    split_ifs at sent with empty broken
    tauto
  · rw [not_or, Bool.not_eq_true] at refused
    have sent : send sender address subject body = .ok (render sender address subject body) := by
      simp [send, refused, whole]
    simp only [sent, Except.ok.injEq, forall_eq', refused, Bool.false_eq_true, false_or]
    constructor
    · intro parsed
      simp only [parseMessage] at parsed
      split at parsed
      · cases parsed
      · rcases Option.map_eq_some_iff.mp parsed with ⟨headers, found, same⟩
        cases same
        rcases of_mem_headers found (List.mem_of_getLast? rfl) with ⟨line, member, chomped⟩
        have feedless := not_mem_of_mem_lines (List.takeWhile_subset _ member)
        intro feed
        apply feedless
        apply chomp_subset line
        rw [chomped, header]
        simp [feed]
    · intro plain
      exact parseMessage_render (not_mem_of_broken whole) (not_mem_of_broken refused.2) plain body

theorem greeting_found :
    ∃ text, send "parsec@example.org" "ann@example.org" "Hello" "Dear Ann" = .ok text ∧
      parseMessage text = some ([("From", "parsec@example.org"), ("To", "ann@example.org"),
        ("Subject", "Hello")], "Dear Ann") :=
  ⟨_, rfl, (headers_found_iff (by decide) _ _ _).mpr (by decide) _ rfl⟩

/-- A subject with a line break brings a header of its own. -/
theorem subject_adds_header :
    ["Hi\r\nBcc: eve@example.org", "Hi\nBcc: eve@example.org"].map (fun subject =>
      (send "parsec@example.org" "ann@example.org" subject "Dear Ann").toOption.bind
        parseMessage) =
    List.replicate 2 (some ([("From", "parsec@example.org"), ("To", "ann@example.org"),
      ("Subject", "Hi"), ("Bcc", "eve@example.org")], "Dear Ann")) := by
  decide +kernel

end Parsec.Sinks.Email
