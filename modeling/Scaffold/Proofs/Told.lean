import Scaffold.Told

/-! What a computation that tells events comes to. Telling changes no result: the result of a sequence of
computations is the sequence of their results. -/

namespace Scaffold.Told

variable {α β γ : Type}

theorem bind_of_ok {told : Told α} {value : α} (h : told.result = .ok value) (next : α → Told β) :
    told >>= next = ⟨told.events ++ (next value).events, (next value).result⟩ := by
  change andThen told next = _
  rw [andThen, h]

theorem bind_of_error {told : Told α} {error : Error} (h : told.result = .error error) (next : α → Told β) :
    told >>= next = ⟨told.events, .error error⟩ := by
  change andThen told next = _
  rw [andThen, h]

theorem bind_assoc (told : Told α) (next : α → Told β) (last : β → Told γ) :
    told >>= next >>= last = told >>= fun value => next value >>= last := by
  cases hresult : told.result with
  | error error => rw [bind_of_error hresult, bind_of_error hresult, bind_of_error rfl]
  | ok value =>
      rw [bind_of_ok hresult, bind_of_ok hresult]
      cases hnext : (next value).result with
      | error error => rw [bind_of_error hnext, bind_of_error rfl]
      | ok found =>
          have hfound : (⟨told.events ++ (next value).events, .ok found⟩ : Told β).result = .ok found := rfl
          rw [bind_of_ok hnext, bind_of_ok hfound, List.append_assoc]

theorem tell_bind_ofExcept (event : Event) (result : Except Error α) :
    (tell event >>= fun _ => ofExcept result) = ⟨[event], result⟩ := rfl

@[simp] theorem result_pure (value : α) : (pure value : Told α).result = .ok value := rfl

@[simp] theorem result_tell (event : Event) : (tell event).result = .ok () := rfl

@[simp] theorem result_ofExcept (result : Except Error α) : (ofExcept result).result = result := rfl

@[simp] theorem result_bind (told : Told α) (next : α → Told β) :
    (told >>= next).result = told.result.bind fun value => (next value).result := by
  cases hresult : told.result with
  | error error =>
      rw [bind_of_error hresult]
      rfl
  | ok value =>
      rw [bind_of_ok hresult]
      rfl

@[simp] theorem events_tell (event : Event) : (tell event).events = [event] := rfl

@[simp] theorem events_ofExcept (result : Except Error α) : (ofExcept result).events = [] := rfl

theorem mem_events_bind {told : Told α} {next : α → Told β} {event : Event} (h : event ∈ (told >>= next).events) :
    event ∈ told.events ∨ ∃ value, told.result = .ok value ∧ event ∈ (next value).events := by
  cases hresult : told.result with
  | error error =>
      rw [bind_of_error hresult] at h
      exact Or.inl h
  | ok value =>
      rw [bind_of_ok hresult] at h
      exact (List.mem_append.mp h).imp_right fun hnext => ⟨value, rfl, hnext⟩

end Scaffold.Told
