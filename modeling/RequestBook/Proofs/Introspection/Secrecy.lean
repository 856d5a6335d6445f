import RequestBook.Proofs.Introspection.Headers

/-!
# What the values of headers decide

Nothing but whether a request can be sent hangs on the values of its headers, and that only on
whether they are ASCII. Two requests whose headers have the same names go to the same place, and
what is made of their replies is the same.
-/

namespace RequestBook

open Introspection

/-- The names of headers, with whether the value of each can be sent. -/
def Headers.shape (headers : Headers) : List (String × Bool) :=
  headers.map (Prod.map id isAscii)

/-- The names of headers alone. -/
def Headers.masked (headers : Headers) : Headers := headers.map (Prod.map id fun _ => "")

section Shape

variable {headers headers' new new' : Headers}

theorem Headers.shape_merge (h : headers.shape = headers'.shape) (hnew : new.shape = new'.shape) :
    (headers.merge new).shape = (headers'.merge new').shape := by
  rw [Headers.shape, Headers.merge, Entries.map_putAll, Headers.shape, Headers.merge,
    Entries.map_putAll]
  exact congrArg₂ (Entries.putAll (· == ·)) hnew h

theorem Headers.masked_of_shape (h : headers.shape = headers'.shape) :
    headers.masked = headers'.masked := by
  have hmasked (headers : Headers) : headers.masked = headers.shape.map (Prod.map id fun _ => "") := by
    simp [Headers.masked, Headers.shape, Function.comp_def]
  rw [hmasked, hmasked, h]

theorem areAscii_of_shape (h : headers.shape = headers'.shape) :
    areAscii headers = areAscii headers' := by
  have hascii (headers : Headers) :
      areAscii headers = headers.shape.all fun h => isAscii h.1 && h.2 := by
    simp [areAscii, Headers.shape, List.all_map, Function.comp_def]
  rw [hascii, hascii, h]

theorem nameHost_of_masked (h : headers.masked = headers'.masked) :
    nameHost headers = nameHost headers' := by
  have hnames (headers : Headers) :
      nameHost headers = headers.masked.any (·.1.toLower = "host") := by
    simp [nameHost, Headers.masked, List.any_map, Function.comp_def]
  rw [hnames, hnames, h]

theorem masked_cons (h : String × String) (headers : Headers) :
    Headers.masked (h :: headers) = (h.1, "") :: headers.masked := rfl

/-- Headers are set by their names. -/
theorem masked_setHeader (name value : String) (headers : Headers) :
    (setHeader name value headers).masked = setHeader name "" headers.masked := by
  induction headers with
  | nil => rfl
  | cons h headers ih =>
    rw [setHeader_cons, masked_cons, setHeader_cons]
    split
    · rw [masked_cons, Headers.masked, Headers.masked, List.filter_map]
      rfl
    · rw [masked_cons, ih]

end Shape

theorem Provider.shape_allHeaders {providers providers' : List Provider}
    (h : List.Forall₂ (fun p p' => p.headers.shape = p'.headers.shape) providers providers') :
    ∀ {before before' : Headers}, before.shape = before'.shape →
      (allHeaders before providers).shape = (allHeaders before' providers').shape := by
  induction h with
  | nil => exact id
  | cons hp _ ih => exact fun hbefore => ih (Headers.shape_merge hbefore hp)

namespace Introspection

variable {url : String} {provider provider' : Provider}

/-- A request without the values of its headers. -/
def Outgoing.masked (r : Outgoing) : Outgoing := { r with headers := r.headers.masked }

theorem masked_authorized {headers headers' : Headers} (h : headers.masked = headers'.masked)
    (target : Target) :
    (target.authorized headers).masked = (target.authorized headers').masked := by
  rw [Target.authorized, Target.authorized]
  split
  · rw [masked_setHeader, masked_setHeader, h]
  · exact h

theorem received_masked (request : Outgoing) (reply : Reply) :
    received request reply = received request.masked reply := by
  cases reply <;> rfl

/-- The values of headers that can be sent appear nowhere but in the headers. -/
theorem fetch_masked (h : provider.headers.shape = provider'.headers.shape) (url : String)
    (timeout : Json) (reply : Reply) :
    (fetch url provider timeout reply).1.map Outgoing.masked =
      (fetch url provider' timeout reply).1.map Outgoing.masked ∧
    (fetch url provider timeout reply).2 = (fetch url provider' timeout reply).2 := by
  have hshape : (standardHeaders.merge provider.headers).shape =
      (standardHeaders.merge provider'.headers).shape := Headers.shape_merge rfl h
  have hmasked := Headers.masked_of_shape hshape
  rw [fetch, fetch, outgoing_eq, outgoing_eq, areAscii_of_shape hshape, nameHost_of_masked hmasked]
  cases destination url (areAscii (standardHeaders.merge provider'.headers))
      (nameHost (standardHeaders.merge provider'.headers)) with
  | error f => exact ⟨rfl, rfl⟩
  | ok target =>
    have hrequest : Outgoing.masked ⟨"POST", target.text,
        target.authorized (standardHeaders.merge provider.headers), payload, timeout⟩ =
      Outgoing.masked ⟨"POST", target.text,
        target.authorized (standardHeaders.merge provider'.headers), payload, timeout⟩ := by
      rw [Outgoing.masked, Outgoing.masked, masked_authorized hmasked]
    refine ⟨congrArg (fun r => [r]) hrequest, ?_⟩
    change received _ reply = received _ reply
    rw [received_masked, hrequest, ← received_masked]

end Introspection

end RequestBook
