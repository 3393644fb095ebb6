import PathRouting.Env

/-!
Requests that were forwarded more than once.

Each proxy adds the host that it was asked for to the end of a list, and may do so in a line of its
own. Of several lines the first is read, so the host is that of the last entry of the first line,
whatever later lines add. Main statements: `resolvedHost_of_lines` (which entry is taken) and
`resolvedHost_of_spread` (when that is the one that is taken of the same list in one line).
-/

namespace PathRouting.Http

/-! ### Fields -/

theorem Headers.text?_of_name {text : String} {name : HeaderName}
    (named : HeaderName.ofText? text = some name) (headers : Headers) :
    headers.text? text = (headers.values name).head?.bind HeaderValue.visible? := by
  rw [Headers.text?, Headers.first?, named]
  rfl

theorem HeaderValue.visible?_eq_some {line : HeaderValue} (visible : line.visible?.isSome = true) :
    line.visible? = some line.text := by
  unfold HeaderValue.visible? at visible ⊢
  split
  · rfl
  · next hidden => simp [hidden] at visible

end PathRouting.Http

namespace PathRouting.Env

open PathRouting.Text PathRouting.Http

/-! ### Lists of hosts -/

/-- The lines that list the hosts that a request was forwarded for. -/
def forwardedLines (headers : Headers) : List HeaderValue :=
  headers.values ⟨forwardedHostName⟩

/-- The entries of a line: the texts between its commas, without blanks around them. -/
def lineEntries (line : HeaderValue) : List (List Char) :=
  (pieces ',' line.text.toList).map Unicode.trimBlanks

/-- The entries of all lines. -/
def forwardedEntries (headers : Headers) : List (List Char) :=
  (forwardedLines headers).flatMap lineEntries

/-- Header fields that list the same hosts in visible lines, in one way or another, and are the same
otherwise. -/
structure SpreadAlike (headers other : Headers) : Prop where
  entries : forwardedEntries headers = forwardedEntries other
  visible : ∀ line ∈ forwardedLines headers ++ forwardedLines other, line.visible?.isSome = true
  others : ∀ name, name.text ≠ forwardedHostName → headers.values name = other.values name

/-- The host that an entry stands for: an empty one leaves it to the other fields. -/
def hostOfEntry (env : Env) (entry : List Char) : Option String :=
  if entry = [] then env.hostByFields false else some (String.ofList entry)

theorem hostOfEntry_eq_iff {env : Env} {a b : List Char} :
    env.hostOfEntry a = env.hostOfEntry b ↔
      a = b ∨ a = [] ∧ env.hostByFields false = some (String.ofList b) ∨
        b = [] ∧ env.hostByFields false = some (String.ofList a) := by
  unfold hostOfEntry
  by_cases left : a = []
  · by_cases right : b = []
    · simp [left, right]
    · simp [left, right, Ne.symm right]
  · by_cases right : b = []
    · simp [left, right, eq_comm]
    · simp [left, right, String.ofList_inj]

/-! ### The line that is read -/

/-- A forwarded host is taken before the others. -/
theorem hostByFields_true (env : Env) :
    env.hostByFields true =
      (env.forwardedHost.bind lastForwarded?).or (env.hostByFields false) := by
  simp [hostByFields, Option.or_assoc]

/-- Of a line, the last entry is taken, unless it is empty. -/
theorem lastForwarded?_eq (line : HeaderValue) :
    lastForwarded? line.text =
      if (lineEntries line).getLastD [] = [] then none
      else some (String.ofList ((lineEntries line).getLastD [])) := by
  have last : (lineEntries line).getLastD [] =
      Unicode.trimBlanks ((pieces ',' line.text.toList).getLastD []) := by
    have cut := List.dropLast_concat_getLast (pieces_ne_nil ',' line.text.toList)
    rw [lineEntries, ← cut]
    simp
  rw [last, lastForwarded?]
  simp

/-- The host is that of the last entry of the first line. -/
theorem resolvedHost_of_lines (method : Method) (target : Uri) {headers : Headers}
    {first : HeaderValue} {more : List HeaderValue} (lines : forwardedLines headers = first :: more)
    (visible : first.visible?.isSome = true) :
    (ofRequest method target headers).resolvedHost true =
      (ofRequest method target headers).hostOfEntry ((lineEntries first).getLastD []) := by
  have named : HeaderName.ofText? forwardedHostName = some ⟨forwardedHostName⟩ := rfl
  have read : (ofRequest method target headers).forwardedHost = some first.text := by
    have found : headers.values ⟨forwardedHostName⟩ = first :: more := lines
    show headers.text? forwardedHostName = _
    rw [Headers.text?_of_name named, found]
    exact HeaderValue.visible?_eq_some visible
  show (ofRequest method target headers).hostByFields true = _
  rw [hostByFields_true, read, Option.bind_some, lastForwarded?_eq, hostOfEntry]
  split
  · rfl
  · rfl

/-! ### Several lines and one -/

/-- Of a list in one line, the last entry of all is taken. So the host stays the same when the list
is spread over several lines just if the first line ends with the same entry, or one of the two
entries is empty and the other one is the host by the other fields. -/
theorem resolvedHost_of_spread (method : Method) (target : Uri) {headers single : Headers}
    {first line : HeaderValue} {more : List HeaderValue} (alike : SpreadAlike headers single)
    (lines : forwardedLines headers = first :: more) (one : forwardedLines single = [line]) :
    let env := ofRequest method target headers
    let taken := (lineEntries first).getLastD []
    let last := (forwardedEntries headers).getLastD []
    env.resolvedHost true = env.hostOfEntry taken ∧
      (ofRequest method target single).resolvedHost true = env.hostOfEntry last ∧
      (env.resolvedHost true = (ofRequest method target single).resolvedHost true ↔
        taken = last ∨ taken = [] ∧ env.hostByFields false = some (String.ofList last) ∨
          last = [] ∧ env.hostByFields false = some (String.ofList taken)) := by
  intro env taken last
  have visible := alike.visible
  rw [lines, one] at visible
  have spread : env.resolvedHost true = env.hostOfEntry taken :=
    resolvedHost_of_lines method target lines (visible first (by simp))
  have entries : lineEntries line = forwardedEntries headers := by
    rw [alike.entries, forwardedEntries, one]
    simp
  have fields : (ofRequest method target single).hostByFields false = env.hostByFields false := by
    have named : HeaderName.ofText? "host" = some ⟨"host"⟩ := rfl
    have host : single.text? "host" = headers.text? "host" := by
      rw [Headers.text?_of_name named, Headers.text?_of_name named,
        alike.others ⟨"host"⟩ (by decide)]
    show ((single.text? "host").or target.host).or none =
      ((headers.text? "host").or target.host).or none
    rw [host]
  have whole : (ofRequest method target single).resolvedHost true = env.hostOfEntry last := by
    rw [resolvedHost_of_lines method target one (visible line (by simp)), entries, hostOfEntry,
      fields]
    rfl
  refine ⟨spread, whole, ?_⟩
  rw [spread, whole]
  exact hostOfEntry_eq_iff

/-- A request whose only fields are lines that list the hosts that it was forwarded for. -/
def forwardedBy (lines : List String) : Headers :=
  ⟨SortedMap.empty.insert forwardedHostName (lines.map HeaderValue.mk)⟩

theorem forwardedLines_forwardedBy (lines : List String) :
    forwardedLines (forwardedBy lines) = lines.map HeaderValue.mk := by
  simp [forwardedLines, forwardedBy, Headers.values]

theorem spreadAlike_forwardedBy {lines other : List String}
    (entries : forwardedEntries (forwardedBy lines) = forwardedEntries (forwardedBy other))
    (visible : ∀ line ∈ lines ++ other, (HeaderValue.mk line).visible?.isSome = true) :
    SpreadAlike (forwardedBy lines) (forwardedBy other) where
  entries := entries
  visible := by
    rw [forwardedLines_forwardedBy, forwardedLines_forwardedBy, ← List.map_append]
    intro line mem
    obtain ⟨text, given, rfl⟩ := List.mem_map.mp mem
    exact visible text given
  others := by
    intro name different
    simp [forwardedBy, Headers.values, different]

/-- Both lines end with the same entry. -/
theorem resolvedHost_of_spread_www :
    let headers := forwardedBy ["old.example.com, www.example.com", "www.example.com"]
    let single := forwardedBy ["old.example.com,www.example.com,www.example.com"]
    let env := ofRequest ⟨"GET"⟩ ⟨none, "/"⟩ headers
    SpreadAlike headers single ∧
      forwardedLines headers = [⟨"old.example.com, www.example.com"⟩, ⟨"www.example.com"⟩] ∧
      forwardedLines single = [⟨"old.example.com,www.example.com,www.example.com"⟩] ∧
      env.resolvedHost true = some "www.example.com" ∧
      env.resolvedHost true = (ofRequest ⟨"GET"⟩ ⟨none, "/"⟩ single).resolvedHost true := by
  intro headers single env
  have alike : SpreadAlike headers single :=
    spreadAlike_forwardedBy (by decide +kernel) (by decide +kernel)
  have lines := forwardedLines_forwardedBy ["old.example.com, www.example.com", "www.example.com"]
  have one := forwardedLines_forwardedBy ["old.example.com,www.example.com,www.example.com"]
  obtain ⟨taken, -, same⟩ := resolvedHost_of_spread ⟨"GET"⟩ ⟨none, "/"⟩ alike lines one
  refine ⟨alike, lines, one, ?_, same.mpr (.inl (by decide +kernel))⟩
  rw [taken]
  decide +kernel

/-- What a client claims in a line of its own is taken, although a proxy has added another host
behind it. In one line the list gives the host of the proxy. -/
theorem earlier_line_is_taken :
    let headers := forwardedBy ["internal.example.com", "www.example.com"]
    let single := forwardedBy ["internal.example.com, www.example.com"]
    headersOf? [("X-Forwarded-Host", "internal.example.com"),
        ("X-Forwarded-Host", "www.example.com")] = some headers ∧
      SpreadAlike headers single ∧
      (ofRequest ⟨"GET"⟩ ⟨none, "/"⟩ headers).resolvedHost true = some "internal.example.com" ∧
      (ofRequest ⟨"GET"⟩ ⟨none, "/"⟩ single).resolvedHost true = some "www.example.com" := by
  intro headers single
  have alike : SpreadAlike headers single :=
    spreadAlike_forwardedBy (by decide +kernel) (by decide +kernel)
  refine ⟨?_, alike, ?_, ?_⟩
  · rfl
  · decide +kernel
  · decide +kernel

end PathRouting.Env
