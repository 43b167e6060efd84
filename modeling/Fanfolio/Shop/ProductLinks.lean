import Fanfolio.Shop.Products

/-!
# The links of published products

The link of a card pack cannot be changed, that of a reward can. A published product keeps its
link as long as every edit, approval and pass sees to it.
-/

namespace Fanfolio

open Framework

/-- Every published product has the link that its type needs. -/
def PublishedLinked (db : ShopDb) : Prop :=
  ∀ product ∈ db.products, product.status = .published → db.linked product = true

instance (db : ShopDb) : Decidable (PublishedLinked db) :=
  inferInstanceAs (Decidable (∀ product ∈ db.products, _))

/-- What no request can break: the links of card packs, unlike those of rewards, stay good. -/
structure ProductsSound (db : ShopDb) : Prop where
  ids : (db.products.map (·.id)).Nodup
  priced : ∀ product ∈ db.products, 0 < product.pricePoints
  packs : ∀ product ∈ db.products, product.productType = .cardPack → db.linked product = true

/-- The products and what they link to are the same. -/
structure SameOffers (db db' : ShopDb) : Prop where
  products : db'.products = db.products
  cardPacks : db'.cardPacks = db.cardPacks
  rewards : db'.rewards = db.rewards

section Offers

variable {db db' : ShopDb} {product : ShopProduct} {productId : ProductId}
  {edit : ShopProduct → ShopProduct}

theorem SameOffers.refl (db : ShopDb) : SameOffers db db := ⟨rfl, rfl, rfl⟩

theorem linked_pack (htype : product.productType = .cardPack) : db.linked product =
    product.cardPackId.any fun packId => packId ≠ "" && db.packPublished packId :=
  if_pos htype

theorem linked_reward (htype : product.productType ≠ .cardPack) :
    db.linked product = db.rewardPublished product.rewardId := if_neg htype

theorem SameOffers.linked (h : SameOffers db db') : db'.linked = db.linked := by
  funext product
  simp only [ShopDb.linked, ShopDb.packPublished, ShopDb.rewardPublished, ShopDb.findPack,
    h.cardPacks, h.rewards]

theorem SameOffers.publishedLinked (h : SameOffers db db') :
    PublishedLinked db' ↔ PublishedLinked db := by
  rw [PublishedLinked, PublishedLinked, h.linked, h.products]

theorem ProductsSound.same (hdb : ProductsSound db) (h : SameOffers db db') :
    ProductsSound db' := by
  constructor
  · rw [h.products]
    exact hdb.ids
  · rw [h.products]
    exact hdb.priced
  · rw [h.products, h.linked]
    exact hdb.packs

theorem mem_editProduct (hids : (db.products.map (·.id)).Nodup)
    (hfind : db.findProduct productId = some product) {row : ShopProduct} :
    row ∈ (db.editProduct productId edit).products ↔
      row = edit product ∨ row ∈ db.products ∧ row.id ≠ productId := by
  obtain ⟨hproduct, hid⟩ := mem_of_find_eq_some (g := ShopProduct.id) hfind
  rw [ShopDb.editProduct, mem_patch]
  constructor
  · rintro ⟨row', hrow', rfl⟩
    by_cases heq : row'.id = productId
    · rw [eq_of_unique hids hrow' hproduct (heq.trans hid.symm)]
      simp [hid]
    · simpa [heq] using .inr hrow'
  · rintro (rfl | ⟨hrow, hne⟩)
    · exact ⟨product, hproduct, by simp [hid]⟩
    · exact ⟨row, hrow, by simp [hne]⟩

theorem ProductsSound.edited (h : ProductsSound db)
    (hfind : db.findProduct productId = some product) (hid : ∀ row, (edit row).id = row.id)
    (hprice : 0 < (edit product).pricePoints)
    (hlink : (edit product).productType = product.productType ∧
      (edit product).cardPackId = product.cardPackId) :
    ProductsSound (db.editProduct productId edit) := by
  obtain ⟨hproduct, -⟩ := mem_of_find_eq_some (g := ShopProduct.id) hfind
  constructor
  · show ((patch _ edit db.products).map (·.id)).Nodup
    rw [map_patch hid]
    exact h.ids
  · intro row hrow
    rcases (mem_editProduct h.ids hfind).mp hrow with rfl | ⟨hrow, -⟩
    · exact hprice
    · exact h.priced row hrow
  · intro row hrow htype
    rcases (mem_editProduct h.ids hfind).mp hrow with rfl | ⟨hrow, -⟩
    · have hpack := hlink.1.symm.trans htype
      have hlinked := h.packs product hproduct hpack
      rw [linked_pack hpack] at hlinked
      rw [linked_pack htype, hlink.2]
      exact hlinked
    · exact h.packs row hrow htype

/-- After an edit of one product, it is this product whose link is in question. -/
theorem publishedLinked_edit (hids : (db.products.map (·.id)).Nodup) (h : PublishedLinked db)
    (hfind : db.findProduct productId = some product) :
    PublishedLinked (db.editProduct productId edit) ↔
      ((edit product).status = .published → db.linked (edit product) = true) := by
  constructor
  · intro hedited hstatus
    exact hedited _ ((mem_editProduct hids hfind).mpr (.inl rfl)) hstatus
  · intro hlinked row hrow hstatus
    rcases (mem_editProduct hids hfind).mp hrow with rfl | ⟨hrow, -⟩
    · exact hlinked hstatus
    · exact h row hrow hstatus

theorem ProductsSound.insert (h : ProductsSound db)
    (hfresh : ∀ row ∈ db.products, row.id ≠ product.id) (hprice : 0 < product.pricePoints)
    (hpack : product.productType = .cardPack → db.linked product = true) :
    ProductsSound { db with products := db.products ++ [product] } := by
  refine ⟨nodup_insert h.ids hfresh, ?_, ?_⟩
  · intro row hrow
    rcases List.mem_append.mp hrow with hold | hnew
    · exact h.priced row hold
    · rw [List.mem_singleton.mp hnew]
      exact hprice
  · intro row hrow htype
    rcases List.mem_append.mp hrow with hold | hnew
    · exact h.packs row hold htype
    · rw [List.mem_singleton.mp hnew] at htype ⊢
      exact hpack htype

theorem publishedLinked_insert (h : PublishedLinked db) :
    PublishedLinked { db with products := db.products ++ [product] } ↔
      (product.status = .published → db.linked product = true) := by
  constructor
  · intro hall hstatus
    exact hall product (by simp) hstatus
  · intro hlinked row hrow hstatus
    rcases List.mem_append.mp hrow with hold | hnew
    · exact h row hold hstatus
    · rw [List.mem_singleton.mp hnew] at hstatus ⊢
      exact hlinked hstatus

/-- The catalogues change, and every link that was good stays good. -/
theorem Storefront.KeepsPublished.linked {cardPacks : List CardPack} {rewards : List RewardCatalog}
    (h : Storefront.KeepsPublished db cardPacks rewards) (hlinked : db.linked product = true) :
    { db with cardPacks := cardPacks, rewards := rewards }.linked product = true := by
  unfold ShopDb.linked at hlinked ⊢
  by_cases htype : product.productType = .cardPack
  · rw [if_pos htype] at hlinked ⊢
    cases hpack : product.cardPackId with
    | none => simp [hpack] at hlinked
    | some packId =>
      rw [hpack, Option.any_some, Bool.and_eq_true] at hlinked
      rw [Option.any_some, Bool.and_eq_true]
      refine ⟨hlinked.1, ?_⟩
      have hpublished := hlinked.2
      unfold ShopDb.packPublished at hpublished
      cases hfound : db.findPack packId with
      | none => simp [hfound] at hpublished
      | some pack =>
        obtain ⟨hmem, rfl⟩ := mem_of_find_eq_some (g := CardPack.id) hfound
        exact h.1 pack hmem hlinked.2
  · rw [if_neg htype] at hlinked ⊢
    have hpublished := hlinked
    unfold ShopDb.rewardPublished at hpublished
    cases hfound : db.rewards.find? (fun row => row.id == product.rewardId) with
    | none => simp [hfound] at hpublished
    | some reward =>
      obtain ⟨hmem, hid⟩ := mem_of_find_eq_some (g := RewardCatalog.id) hfound
      rw [← hid] at hlinked ⊢
      exact h.2 reward hmem hlinked

theorem executeApproved_sameOffers {users : List User} {item : ApprovalRequest} {actorId : String}
    {draws : RefundDraws} {now : Time} {executed : Bool}
    (hkind : item.kind ≠ .admin .productPublish)
    (h : executeApproved db users item actorId draws now = .ok (db', executed)) :
    SameOffers db db' := by
  unfold executeApproved at h
  split at h
  · simp only [map_ok, Prod.exists, Prod.mk.injEq] at h
    obtain ⟨_, _, hrefund, rfl, -⟩ := h
    obtain ⟨order, -, hrefund⟩ := executeApprovedRefund_ok hrefund
    simp only [refundOrder, bind_ok] at hrefund
    obtain ⟨_, -, refunded, -, hreverse⟩ := hrefund
    obtain ⟨points, rfl, -⟩ := reverseOrder_ok hreverse
    cases refunded <;> exact ⟨rfl, rfl, rfl⟩
  · simp only [map_ok, Prod.exists, Prod.mk.injEq] at h
    obtain ⟨_, _, hadjust, rfl, -⟩ := h
    simp only [executeApprovedPointAdjustment, bind_ok, ensure_ok, exists_const, orFail_ok,
      Prod.exists, pure_ok, Prod.mk.injEq] at hadjust
    obtain ⟨-, user, -, recorded, event, hrecord, points, ledger, -, completed, hinsert, rfl, -⟩ :=
      hadjust
    obtain ⟨events, rfl, -⟩ := recordEvent_ok hrecord
    obtain ⟨-, -, rfl⟩ := insertTransaction_ok hinsert
    exact ⟨rfl, rfl, rfl⟩
  · contradiction
  · cases h
    exact ⟨rfl, rfl, rfl⟩

end Offers

namespace Storefront

/-- The writer leaves every published product linked: a publication and a creation see to it
themselves, the others need it of what they find. -/
def Careful (s : Storefront) : ProductAction → Prop
  | .update productId payload context =>
    ∀ product pack, s.writableProduct productId context = .ok (product, pack) →
      (payload.apply product).status = .published → product.productType ≠ .cardPack →
      s.shop.rewardPublished (payload.apply product).rewardId = true
  | .approve approvalId context _ _ =>
    ∀ item, s.approvalToExecute approvalId context = .ok (some item) →
      item.kind = .admin .productPublish →
      ∀ product, s.shop.findProduct item.entityId = some product →
      product.productType ≠ .cardPack → s.shop.rewardPublished product.rewardId = true
  | .offerPass season =>
    (∃ price ∈ season.premiumPricePoints, 0 < price) →
      (s.shop.findProduct (passProductId season.id)).isSome
  | _ => True

variable {s s' : Storefront}

theorem validateShopProductPayload_linked {payload : ShopProductCreate} {context : AdminContext}
    {u : Unit} (h : s.validateShopProductPayload payload context = .ok u) {product : ShopProduct}
    (htype : product.productType = payload.productType)
    (hpack : product.cardPackId = payload.cardPackId)
    (hreward : product.rewardId = payload.rewardId) :
    s.shop.linked product = true := by
  simp only [validateShopProductPayload, bind_ok, ensure_ok, exists_const] at h
  obtain ⟨-, -, -, h⟩ := h
  rw [ShopDb.linked, htype, hpack, hreward]
  split at h
  · rename_i hcard
    simp only [bind_ok, ensure_ok, exists_const] at h
    obtain ⟨hgiven, hfound⟩ := h
    rw [if_pos hcard]
    cases hid : payload.cardPackId with
    | none => simp [hid] at hgiven
    | some packId =>
      rw [hid] at hgiven hfound
      rw [Option.any_some, Bool.and_eq_true]
      refine ⟨hgiven, ?_⟩
      rw [Option.bind_some] at hfound
      rw [ShopDb.packPublished]
      cases hpackRow : s.shop.findPack packId with
      | none => simp [hpackRow] at hfound
      | some pack =>
        rw [hpackRow] at hfound
        simp only [Option.any_some, decide_eq_true_eq] at hfound ⊢
        exact hfound.2
  · rename_i hcard
    rw [if_neg hcard]
    exact ensure_ok.mp h

theorem writableProduct_ok {productId : ProductId} {context : AdminContext} {product : ShopProduct}
    {pack : Option CardPack} (h : s.writableProduct productId context = .ok (product, pack)) :
    s.shop.findProduct productId = some product ∧
      pack = product.cardPackId.bind s.shop.findPack := by
  simp only [writableProduct, adminShopProductRow, bind_ok, Prod.exists, orFail_ok,
    Option.filter_eq_some_iff, pure_ok, Prod.mk.injEq] at h
  obtain ⟨-, -, row, pack', ⟨_, ⟨hfind, -⟩, rfl, rfl⟩, -, -, rfl, rfl⟩ := h
  exact ⟨hfind, rfl⟩

/-- What an action makes of sound and linked products: they stay sound, and linked if the action
is careful. -/
def Answers (s : Storefront) (a : ProductAction) : Prop :=
  ProductsSound (step s a).shop ∧ (PublishedLinked (step s a).shop ↔ Careful s a)

section Steps

variable (hsound : ProductsSound s.shop) (hlinked : PublishedLinked s.shop)

include hsound hlinked

theorem answers_unchanged {a : ProductAction} (hsame : SameOffers s.shop (step s a).shop)
    (hcareful : Careful s a) : Answers s a :=
  ⟨hsound.same hsame, fun _ => hcareful, fun _ => hsame.publishedLinked.mpr hlinked⟩

/-- An action that fails. -/
theorem answers_failed {a : ProductAction} (hstep : step s a = s) (hcareful : Careful s a) :
    Answers s a := by
  refine answers_unchanged hsound hlinked ?_ hcareful
  rw [hstep]
  exact .refl s.shop

theorem create_answers (payload : ShopProductCreate) (context : AdminContext)
    (productId : ProductId) : Answers s (.create payload context productId) := by
  cases hcreate : s.createAdminShopProduct payload context productId with
  | error e =>
    refine answers_failed hsound hlinked ?_ trivial
    rw [step, hcreate]
    rfl
  | ok result =>
    obtain ⟨s', product⟩ := result
    have hstep : step s (.create payload context productId) = s' := by
      rw [step, hcreate]
      rfl
    simp only [createAdminShopProduct, bind_ok, ensure_ok, exists_const, pure_ok,
      Prod.mk.injEq] at hcreate
    obtain ⟨_, -, _, hvalid, hfresh, -, rfl, rfl⟩ := hcreate
    rw [Answers, hstep]
    refine ⟨hsound.insert hfresh payload.pricePoints_pos ?_, fun _ => trivial, fun _ => ?_⟩
    · exact fun _ => validateShopProductPayload_linked hvalid rfl rfl rfl
    · exact (publishedLinked_insert hlinked).mpr fun hstatus => by cases hstatus

theorem update_answers (productId : ProductId) (payload : ShopProductUpdate)
    (context : AdminContext) : Answers s (.update productId payload context) := by
  cases hwritable : s.writableProduct productId context with
  | error e =>
    refine answers_failed hsound hlinked ?_ fun product pack hok => ?_
    · rw [step, updateAdminShopProduct, hwritable]
      rfl
    · cases hwritable.symm.trans hok
  | ok result =>
    obtain ⟨product, pack⟩ := result
    have hstep : step s (.update productId payload context) =
        { s with shop := s.shop.editProduct productId payload.apply } := by
      rw [step, updateAdminShopProduct, hwritable]
      rfl
    obtain ⟨hfind, -⟩ := writableProduct_ok hwritable
    obtain ⟨hproduct, -⟩ := mem_of_find_eq_some (g := ShopProduct.id) hfind
    have hprice : 0 < (payload.apply product).pricePoints := by
      show 0 < payload.pricePoints.getD product.pricePoints
      cases hgiven : payload.pricePoints with
      | none => exact hsound.priced product hproduct
      | some price => exact payload.pricePoints_pos price hgiven
    rw [Answers, hstep, publishedLinked_edit hsound.ids hlinked hfind]
    refine ⟨hsound.edited hfind (fun _ => rfl) hprice ⟨rfl, rfl⟩, ?_, ?_⟩
    · intro hafter product' pack' hok hstatus htype
      obtain ⟨rfl, -⟩ := Prod.mk.inj (Except.ok.inj (hwritable.symm.trans hok))
      have htype' : (payload.apply product).productType ≠ .cardPack := htype
      rw [← linked_reward htype']
      exact hafter hstatus
    · intro hcareful hstatus
      by_cases htype : product.productType = .cardPack
      · have htype' : (payload.apply product).productType = .cardPack := htype
        rw [linked_pack htype']
        exact linked_pack htype ▸ hsound.packs product hproduct htype
      · have htype' : (payload.apply product).productType ≠ .cardPack := htype
        rw [linked_reward htype']
        exact hcareful product pack hwritable hstatus htype

theorem publish_answers (productId : ProductId) (context : AdminContext) :
    Answers s (.publish productId context) := by
  cases hpublish : s.publishAdminShopProduct productId context with
  | error e =>
    refine answers_failed hsound hlinked ?_ trivial
    rw [step, hpublish]
    rfl
  | ok result =>
    obtain ⟨s', published⟩ := result
    have hstep : step s (.publish productId context) = s' := by
      rw [step, hpublish]
      rfl
    simp only [publishAdminShopProduct, bind_ok, Prod.exists, ensure_ok, exists_const, pure_ok,
      Prod.mk.injEq] at hpublish
    obtain ⟨product, pack, hwritable, -, hreward, rfl, rfl⟩ := hpublish
    obtain ⟨hfind, -⟩ := writableProduct_ok hwritable
    obtain ⟨hproduct, -⟩ := mem_of_find_eq_some (g := ShopProduct.id) hfind
    have hgood : s.shop.linked product = true := by
      by_cases htype : product.productType = .cardPack
      · exact hsound.packs product hproduct htype
      · rw [linked_reward htype]
        exact hreward htype
    rw [Answers, hstep]
    refine ⟨hsound.edited hfind (fun _ => rfl) (hsound.priced product hproduct) ⟨rfl, rfl⟩,
      fun _ => trivial, fun _ => ?_⟩
    exact (publishedLinked_edit hsound.ids hlinked hfind).mpr fun _ => hgood

theorem requestApproval_answers (kind : AdminApprovalKind) (entityType entityId : String)
    (reason : Option String) (context : AdminContext) (id : String) :
    Answers s (.requestApproval kind entityType entityId reason context id) := by
  refine answers_unchanged hsound hlinked ?_ trivial
  rcases commitOr_cases s (s.createAdminApproval kind entityType entityId reason context id) with
    hsame | ⟨replayed, hok⟩
  · rw [step, hsame]
    exact ⟨rfl, rfl, rfl⟩
  · rw [step]
    generalize commitOr s (s.createAdminApproval kind entityType entityId reason context id) = s'
      at hok ⊢
    simp only [createAdminApproval, bind_ok] at hok
    obtain ⟨-, -, hok⟩ := hok
    split at hok
    · obtain ⟨rfl, -⟩ := Prod.mk.inj (pure_ok.mp hok)
      exact ⟨rfl, rfl, rfl⟩
    · simp only [bind_ok, ensure_ok, exists_const, pure_ok, Prod.mk.injEq] at hok
      obtain ⟨-, rfl, -⟩ := hok
      exact ⟨rfl, rfl, rfl⟩

omit hsound hlinked in
theorem approve_shop {approvalId : String} {context : AdminContext} {draws : RefundDraws}
    {now : Time} {item : ApprovalRequest}
    (hopen : s.approvalToExecute approvalId context = .ok (some item)) :
    (step s (.approve approvalId context draws now)).shop =
      commitOr s.shop (executeApproved s.shop s.users item context.user.id draws now) := by
  rw [step, approveAdminApproval, hopen]
  cases hexecute : executeApproved s.shop s.users item context.user.id draws now <;>
    simp [bind, Except.bind, hexecute, commitOr, pure, Except.pure]

omit hsound hlinked in
theorem careful_approve {approvalId : String} {context : AdminContext} {draws : RefundDraws}
    {now : Time} {item : ApprovalRequest}
    (hopen : s.approvalToExecute approvalId context = .ok (some item)) :
    Careful s (.approve approvalId context draws now) ↔
      (item.kind = .admin .productPublish → ∀ product,
        s.shop.findProduct item.entityId = some product →
        product.productType ≠ .cardPack → s.shop.rewardPublished product.rewardId = true) := by
  simp [Careful, hopen]

/-- The execution of a publication does not look at the link of the product. -/
theorem approvePublication_answers {approvalId : String} {context : AdminContext}
    {draws : RefundDraws} {now : Time} {item : ApprovalRequest}
    (hopen : s.approvalToExecute approvalId context = .ok (some item))
    (hkind : item.kind = .admin .productPublish) :
    Answers s (.approve approvalId context draws now) := by
  have hcareful : Careful s (.approve approvalId context draws now) ↔ _ := careful_approve hopen
  have hshop : (step s (.approve approvalId context draws now)).shop = _ := approve_shop hopen
  rw [Approval.executeApproved_publish hkind] at hshop
  cases hfind : s.shop.findProduct item.entityId with
  | none =>
    simp only [hfind, Option.isSome_none, Bool.false_eq_true, if_false, commitOr] at hshop
    refine answers_unchanged hsound hlinked ?_ ?_
    · rw [hshop]
      exact .refl s.shop
    · exact hcareful.mpr fun _ product hsome => by cases hfind.symm.trans hsome
  | some product =>
    simp only [hfind, Option.isSome_some, if_true, commitOr] at hshop
    obtain ⟨hproduct, -⟩ := mem_of_find_eq_some (g := ShopProduct.id) hfind
    have hedit : s.shop.publishProduct item.entityId =
      s.shop.editProduct item.entityId ({ · with status := .published }) := rfl
    rw [Answers, hshop, hedit, publishedLinked_edit hsound.ids hlinked hfind, hcareful]
    refine ⟨hsound.edited hfind (fun _ => rfl) (hsound.priced product hproduct) ⟨rfl, rfl⟩,
      ?_, ?_⟩
    · intro hgood _ product' hsome htype
      obtain rfl := Option.some.inj (hfind.symm.trans hsome)
      rw [← linked_reward htype]
      exact hgood rfl
    · intro hgood _
      by_cases htype : product.productType = .cardPack
      · exact hsound.packs product hproduct htype
      · have hreward := hgood hkind product hfind htype
        rw [← linked_reward htype] at hreward
        exact hreward

theorem approve_answers (approvalId : String) (context : AdminContext) (draws : RefundDraws)
    (now : Time) : Answers s (.approve approvalId context draws now) := by
  have hnothing (hstep : step s (.approve approvalId context draws now) = s)
      (hnone : ∀ item, s.approvalToExecute approvalId context ≠ .ok (some item)) :
      Answers s (.approve approvalId context draws now) :=
    answers_failed hsound hlinked hstep fun item hok => absurd hok (hnone item)
  cases hopen : s.approvalToExecute approvalId context with
  | error e =>
    refine hnothing ?_ (by simp [hopen])
    rw [step, approveAdminApproval, hopen]
    rfl
  | ok found =>
    cases found with
    | none =>
      refine hnothing ?_ (by simp [hopen])
      rw [step, approveAdminApproval, hopen]
      rfl
    | some item =>
      by_cases hkind : item.kind = .admin .productPublish
      · exact approvePublication_answers hsound hlinked hopen hkind
      · refine answers_unchanged hsound hlinked ?_
          ((careful_approve hopen).mpr fun h => absurd h hkind)
        rw [approve_shop hopen]
        exact commitOr_keeps (.refl s.shop) fun db' executed hok =>
          executeApproved_sameOffers hkind hok

theorem catalogue_answers (cardPacks : List CardPack) (rewards : List RewardCatalog) :
    Answers s (.catalogue cardPacks rewards) := by
  by_cases hkept : KeepsPublished s.shop cardPacks rewards
  · rw [Answers, step, if_pos hkept]
    refine ⟨⟨hsound.ids, hsound.priced, ?_⟩, fun _ => trivial, fun _ => ?_⟩
    · intro product hproduct htype
      exact hkept.linked (hsound.packs product hproduct htype)
    · intro product hproduct hstatus
      exact hkept.linked (hlinked product hproduct hstatus)
  · refine answers_unchanged hsound hlinked ?_ trivial
    rw [step, if_neg hkept]
    exact .refl s.shop

/-- A new product of a season is published without a reward. -/
theorem offerPass_answers (season : PassSeason) : Answers s (.offerPass season) := by
  cases hprice : season.premiumPricePoints.filter (0 < ·) with
  | none =>
    have hstep : step s (.offerPass season) = s := by rw [step, hprice]
    refine answers_unchanged hsound hlinked ?_ ?_
    · rw [hstep]
      exact .refl s.shop
    · rintro ⟨price, hgiven, hpos⟩
      rw [Option.filter_eq_none_iff] at hprice
      simp [Option.mem_def.mp hgiven] at hprice
      exact absurd hpos (not_lt.mpr hprice)
  | some price =>
    have hshop : (step s (.offerPass season)).shop = s.shop.upsertPassProduct season price := by
      rw [step, hprice]
    obtain ⟨hgiven, hpos⟩ := Option.filter_eq_some_iff.mp hprice
    have hpos' : 0 < price := by simpa using hpos
    have hcareful : Careful s (.offerPass season) ↔
        (s.shop.findProduct (passProductId season.id)).isSome := by
      refine ⟨fun h => h ⟨price, hgiven, hpos'⟩, fun h _ => h⟩
    rw [Answers, hshop, hcareful]
    cases hfind : s.shop.findProduct (passProductId season.id) with
    | some product =>
      obtain ⟨hproduct, -⟩ := mem_of_find_eq_some (g := ShopProduct.id) hfind
      have hupsert : s.shop.upsertPassProduct season price =
          s.shop.editProduct (passProductId season.id)
            ({ · with name := season.title, pricePoints := price }) := by
        simp only [ShopDb.upsertPassProduct, hfind]
        rfl
      rw [hupsert, publishedLinked_edit hsound.ids hlinked hfind]
      exact ⟨hsound.edited hfind (fun _ => rfl) hpos' ⟨rfl, rfl⟩, fun _ => rfl,
        fun _ hstatus => hlinked product hproduct hstatus⟩
    | none =>
      have hupsert : s.shop.upsertPassProduct season price =
          { s.shop with products := s.shop.products ++
            [{ id := passProductId season.id, artistId := season.artistId
               productType := .limitedItem, name := season.title, pricePoints := price
               status := .published }] } := by
        simp only [ShopDb.upsertPassProduct, hfind]
      have hfresh : ∀ row ∈ s.shop.products, row.id ≠ passProductId season.id := by
        simpa [ShopDb.findProduct] using hfind
      rw [hupsert, publishedLinked_insert hlinked]
      refine ⟨hsound.insert hfresh hpos' ?_, ?_, ?_⟩
      · intro htype
        cases htype
      · intro h
        exact absurd (h rfl) (by simp [ShopDb.linked, ShopDb.rewardPublished])
      · intro h
        cases h

theorem step_answers (a : ProductAction) : Answers s a := by
  cases a with
  | create payload context productId =>
    exact create_answers hsound hlinked payload context productId
  | update productId payload context =>
    exact update_answers hsound hlinked productId payload context
  | publish productId context => exact publish_answers hsound hlinked productId context
  | requestApproval kind entityType entityId reason context id =>
    exact requestApproval_answers hsound hlinked kind entityType entityId reason context id
  | approve approvalId context draws now =>
    exact approve_answers hsound hlinked approvalId context draws now
  | catalogue cardPacks rewards => exact catalogue_answers hsound hlinked cardPacks rewards
  | offerPass season => exact offerPass_answers hsound hlinked season

end Steps

/-- A published product has its link, and a fan who can pay gets it. -/
def Offered (s : Storefront) : Prop :=
  ∀ product ∈ s.shop.products, product.status = .published →
    s.shop.linked product = true ∧ Buyable s.shop product

theorem offered_iff (h : ProductsSound s.shop) : Offered s ↔ PublishedLinked s.shop := by
  constructor
  · intro hoffered product hproduct hstatus
    exact (hoffered product hproduct hstatus).1
  · intro hlinked product hproduct hstatus
    have hgood := hlinked product hproduct hstatus
    exact ⟨hgood, .of_linked h.ids hproduct hstatus (h.priced product hproduct) hgood⟩

/-- In a run from a shop without products every published product can be bought in every state,
exactly when every edit, approval and pass on the way is careful. -/
theorem products_offered_iff (s : Storefront) (acts : List ProductAction) :
    Throughout step Offered (start s) acts ↔ Always step Careful (start s) acts := by
  have hempty : ∀ product, product ∉ (start s).shop.products := by
    intro product hproduct
    cases hproduct
  have hsound : ProductsSound (start s).shop :=
    ⟨List.nodup_nil, fun product hproduct => absurd hproduct (hempty product),
      fun product hproduct => absurd hproduct (hempty product)⟩
  refine throughout_iff_always (I := fun s : Storefront => ProductsSound s.shop) hsound
    (fun product hproduct => absurd hproduct (hempty product)) ?_ ?_
  · intro s a h hoffered _
    exact (step_answers h ((offered_iff h).mp hoffered) a).1
  · intro s a h hoffered
    obtain ⟨hafter, hiff⟩ := step_answers h ((offered_iff h).mp hoffered) a
    rw [offered_iff hafter, hiff]

/-- A shop with one published reward and a fan with points. -/
def giftShop : Storefront where
  shop :=
    { openShop [] [{ userId := "fan_a", balance := 1000 }] with
      rewards := [{ id := "gift", status := .published }] }
  artists := ["luna"]
  users := [{ id := "fan_a" }]
  approvals := []

def gift : ShopProductCreate where
  artistId := "luna"
  productType := .limitedItem
  name := "Gift"
  rewardId := "gift"
  pricePoints := 370
  artistId_ne := by decide
  pricePoints_pos := by decide
  perUserLimit_pos := by simp

theorem unsetPrice_pos : ∀ price ∈ (none : Option Int), 0 < price := by simp

/-- An empty `fulfillment`. -/
def noReward : ShopProductUpdate where
  rewardId := some ""
  pricePoints_pos := unsetPrice_pos
  perUserLimit_pos := by simp

/-- A published gift is edited. -/
def editedGift : List ProductAction :=
  [.create gift rootContext "shop_product_1", .publish "shop_product_1" rootContext,
   .update "shop_product_1" noReward rootContext]

def orderDraws : OrderDraws :=
  ⟨"shop_order_1", "evt_1", "point_1", "right_1", "grant_1", "point_tx_1"⟩

/-- The gift stays published without its reward, and no fan can buy it. -/
theorem products_offered_fails :
    ∃ product ∈ (run step (start giftShop) editedGift).shop.products,
      product.status = .published ∧
      (run step (start giftShop) editedGift).shop.linked product = false ∧
      createShopOrder (run step (start giftShop) editedGift).shop "fan_a"
        ⟨"shop_product_1", "points"⟩ "order-key" orderDraws 1 =
          .error (.app ⟨409, "SHOP_PRODUCT_NOT_PURCHASABLE", "상품 지급 정보를 확인할 수 없습니다."⟩) := by
  decide +kernel

end Storefront

end Fanfolio
