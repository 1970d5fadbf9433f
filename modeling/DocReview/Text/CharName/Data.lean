/-!
# Data — the names of characters, as data

`nameTable` lists the names of Unicode 14 in the order of their code points, those that follow from the code point left
out.  A small letter starts an entry and tells how many words it shares with the name before it, `a` for none; where code
points are skipped, a plus sign, how many in hexadecimal, and a point follow; then come the other words.  The table is
written in signs, most of which stand for two others: the pairs are listed in `pairTable`, each in signs of the pairs
before it.
-/
namespace DocReview.Text.CharName

/-- The signs of one character that stand for a pair, with its number. -/
def shortSigns : List (Char × Nat) :=
  [('!', 1), ('$', 3), ('%', 4), ('&', 5), ('(', 6), (')', 7), ('*', 8), (',', 10), (':', 20), (';', 23), ('<', 32),
    ('=', 39), ('>', 48), ('?', 62), ('[', 94), (']', 99)]

/-- The characters that start a sign of two, which stands for a pair. -/
def leadSigns : String := "mnopqrstuvwxyz^_|~"

def tailSigns : String :=
  "0123456789ABCDEFGHIJKLMNOPQRSTUVWXYZabcdefghijklmnopqrstuvwxyz+.!$%&()*,:;<=>?[]^_|~"

def pairTable : String := "
LEALERTHARONINAcANEN S WIGORD Tm2I$mBmG! T mH OWTIE m0TmOmFREbCmP LAOMITAdm9TDOmCHAPbSS EcEmE!LHESI(GRAMmfBOEdFmDSHm
k ROTWcAmUPmX-mnMUNmt&mxmumRmyTADIURCKm0FMEHAmamVm)mIm0 ISELUPRmZRmL%m>Vm2OcMAQURImCNmbmp%DDE*mEcNUMmRm*cSmi TOn0mSIEI
RmYTVEn6mSTE BmImvPOUBCH,m~*GTmeFIn1mcIdLO MHO*D CUdAml00mM&UcdAIcEaS-ADUSESTmDEMACTcA 01LIH)OKOdOPDAY ULmbE%KASETDDmY
nKF(02ICAMXcnCCmlLmMCm;mL,Tm%mJdSm=mJTm|mrnQT-FOYE$mQYMm0CHmVaSo0n,cnDH DmL+1AVm2 o1njcCoB-o5nfo7N03nxoDmTm$OFKEOmTV;d
NATo8.m:oLn$nIHmDILLmLnOmvnYnEn!m,oQoVn_m!PLO cMnUnrCn*EmZB% NSaBn; n3AemwDm[n:L&mYmJm_%GmjIZKAn<mq(IEVHcnTnyGE&;04BoI
Em_I nJ(n[nNAYEDm?am&m.,o4ovmMmgngOm[SSdTmgo9In.MOmhX&To2;Sco<nITn8GA)TcDm9 dM05PHWnQ* H!GmQdBm=n])N12n5BV%V=Pm2nk WAH
:oSospQo~FnlAGmMm&HdHnVcGcTo^m,,mpDmCUTcPpDFCmQEmhHommrobphmQKHUeUmcFm0E-L(a+nBUaCAnaE,NO$Oo(m0& mjm$m=T06P%YAm9cpUmcP
mhnM BE34IeTYn9PRmapnXJE)Dn& n~;LLoJ 8oEEem%n]NGb+o&p3nSm$2.)PVOpwnhLmZcKm9I T:opmMLAf)Sm[SofTq9nVVI56(n2pjD-2nMapzn+R
&B ImJOGnBm<VmLWniOLmhOonmIouKqXm;TTbpWm?:cF-1SCcZ)AmDNoapmqf-E:cHG ms2m!NorMpR!ABMnySETaY)m&pNmQqIqNXU XTdKnaoyon!PAm
z2mz4mz6nnn3BmQms4pbqUCmgcEeK% oCMoH1oem0Am%%Gm9dIn2cBms1mwGouoKaWH%eSnYoMo$mIXIm0Sm< o:n5o]nvcW,oqms3o=meTUdYnH%07SUZ
m2mBp0mP,mz1mz3mz5nqNo! pKIm.Am|E-rNCEH<bmSdC)Gm%TnDmcOUPEdL$ )JcnP$pJm? n!m0n^pfqYrvV>cRmbm~n4(p=Hqdp)08)KoFpBrEn9cVn
Hn;nMbo6oYrdnwAnjNESTmj mrm]o]Y KPmqRY&=n5p>o:nIpSneOeR)UKUnGcOcmTdG$*m<pBncB09HmZIMcU*Nn7owB(m2pgmq?numhrcsKAFAKm9Do
> LY)Vnls6p(npq[rTGGM)Tqtoes0quM m^-4IDT&n9 nc5qAmJ-3BA,p<m^Co6oRJOSd$nC)n.oF pxreUAWmGeGnYpLq!mer5qVCm!MpZYO( ?oTo;a-
5C!Cm*M1PI&>)Cmz7nPoMsmqSLmVMUO:Y<m0a&:,m(mqo?m(MoH2oZ HIU:m9$<BnTpZnk:nwLszr.CnaEbLmTRUbr!dD(m[mD m?boU oUoAozsbtOqCA
mFEKIOTScmomo nHqRn>o4ogqTrw;scK7oEC%CmXKIM<Rn8Tmqn~=+q67p~mXYm?o=nc3oYesLnOtarSFEOrFRmUUDm2a)BEnzPoAdZeLmTTpEtQq&*r;-
r[tit&oZXn4dPq8s)r2tqrGnfr~t(sMq=sVokt$n^D;Indnxt?oa*ooqrt!-t:r?NmDeN,mimFNmUm^rAp0t,p]AmoC&PqWUGdoR$E%Cn2pEnGDnWm*nWn
*rrpLt<uJAbWEW)&a:odo|sIp%qJrBnJtJnOuKuQuRr+uUuVn<%n>owoN(-613R*SeT<*nh,Em.n(nHoIn(mXqmujrz sv s[Tuh&AmEK<dReBmrOm<tyn
SSn|nrn|snoReuFniFtBSmcUOaBmrtlnc6pJoAqEojHeIFaPeR,mkmHqcmwCn7SornEqH)sZmetPft.(ufpKA:DZPcUnmYRcq*$c)$mTMmg%m.nPm|PnBn
5pT&txmJu7R14A<BqROm]PmUcqvmFm:mMoKnZ1nZ6oqmFo$!pRmIqZmEv5-vL-A$Kmam9G=NnzvMpe p!t7qEoW oWOOOooWn1dnPdp&$pCmHr9mrnsnNm
,nbKnwq|p2epp;p?pNso(vaK G24Ct1SbW=dWeDm2r<)nLmjMm.vDm%n^npCntm9n[Po$IpvmJqanfsH)uoD odM&ZZ!u4,PmhMm]uWnBmwnZ2ntp7pF1q
3q6qFn2u+slvcpgFm:H=OmwP!&dmUEm(pPm:vKm<m2n2qjnRnXntv!n$mIoem,pMwFsWv~s;vmteuw4.EXHprL)SmgcYm0NmQS>Nm=n^nWmXqKdrOptrpv
Eu>wcwHsQ2 3.DUFnSImoRmieTeZmQth<Nm.CnRInZ3p2dpirlq+s4r%nqs~tYuSwxwMqCwop>36HmiOTPweUnXdwtmQCmUsJnZ7nqBnvuzn~>oanhofmJ
uCw(w?s1WndYnJdoP&po(c*nnmQmE=S>Am(o6nZ5rbqGtc&u3m0uXav^oOwOw<AndEYL*Lr3bn?cQeMmMPn%0oUm2q>nEs8KsNSt;sAwfm2w+v?xBoZLUN
(YPdtCeE)mo,nK<Mmgdmlqe?KqFt[sE uEm(Em9FmiGUM(NmZ(mF)ndmPpam&tAn0rVnPmenZ4nZ8no0oSNof$ooGozmoprCp^rlqap1q$ vBmJw*n8-7B
UCAGOO?Pm(To+Ubm9CmH,no2no6omm2p5$p5v7pOWqbogr1mEr(asqp;t2ZtWat~sA mn25Em0FmTGrjMoTNANu(Rm:YUcot*Tm9mJmBni>BmsA?m$m!;m
_EnEMnHq5no5numon=sgocOq7w:v,m,xim2 mS23AEKmeLmCSm2YamBo2<Gm_ngn4UnVmjnltdno1n)Ho(m,qOdtmau?nNv$rqxcmUx_p[ P Y6.EPGIIK
JIRn5SmJWm:bn=)MmHpamomDn7mpnPFo&nOqLmjrL;rQauIm0uvmexSviycoO15NYOCPmaR;Tm9TnvZmg$yJmTYm<pMnZ9nbUo_yPp5Tpeuiq5y$r_SvHw
rwjmDx3nRCmTEmoFttGmwIXKOKm(M*R!VAWm]ao!ao_aradQeW%qw)Z,H>Mmo<m:Eopojo| p[rZqcneqymJrQqTsYwvsrsrunm,wBoOwIw&wwyAyjsJy[
rxy]yN115.HYNo)R<SmMSoiUmoan=bMcJeY)o?:nDmgupmrn1ms5m(r:m_nim_x,no7qJuZr4z=rZNsaokskm$stqgtwnquYz>vRSvuaw^u_xF;x^zkzC;
z;q)35BIBeCntEfEmJE=I:dXm9mMmDpkmIodmqPm.tFm<mh[s^]s^nJybnL%nPnEnRMnqq2oWeo|z|pGo,pjmEq.p2s<yruHmSxos*ytzfz4mJzA^3zEzn
zm^Hzq^T^Gpy1617DnVE$OnpPnpS&TmjUEUXar=cmQdFm9zcmjm:mlXn6rV[t6nGm9nSqeno4o2p3pamSp?tAqow8tS?yVz_z?^a^Koo^uo% D457.AmJB
q5Cu5DcMISmpYNZHbKbPcIcp*m0q2)F*mJ:xQ>Fm&Ln3n?]t6no3n%1ojbp+fp(oop< qAnmqDm9rLnermwdsTm:^&mJ18E>OncSm~VnzYm]aFboPcLeQe
pl(d*Cm9mEmFmI:s.<Smrm;m!n)m&Dm&Mn4OnBr8nTOno8n&mIn|r:oq;o,q1pdqWptoypvTrf^JrqrZtsqGus2wRzHy3nnzo^RzpDz:q)_4$_ym^CqmCx
zO-OpcSn+YdYv=an?ct%fqnm0R&G&c:sa:x7mgp_m^TnLOn%2n%3n%4oWbohEo,pGo[w|pAqWpEtRpHGrI sfpot]z8u0uyvAm2vAoAv&mIx]ogy)mJz9m
uz%u]_vY oY46AHAWAnmEq&FFG%LsTOBOmsTdWmfWp0cmqd^geXm0pA*dmTmomT_cmgm;>s,?Gn4w0[KnDnOnWmgno9nwxJn%6n%8n<mjp90p!r<qlxnrP
^:r*bu~_Mv:|h^c^*^lD_+^X|Dnb|Zt_ F-P1038D,E%GmgODR(Tp%YIaNdVeq0es3m0sO$<(S)oP*2*nf<JmjGmqzymwIm[nvn3n=nGMnSGnXNnYrxnw%
n+w;n%5n%9oG3ocvCo>z5o^m0pMSpSqpp,5p,6q3wQqtmes+LtpxUt~vkunm0u.Kv|^mwamQydu,y<vIzFt_^9n:^N^0^vme^)zj|w|%~4~a~U~G192650
8.9.AUBBCv.D>Dm;EZEnmGBJq_Rm<UmJUm]UulVzWYcaMcoPm0G$;%oz(nG*c:sUmMK=Kmsp.m.qLn7An7mg]KnUdnpPnsP
"

def nameTable : String := "
pq20.SPnlne_%q)a^5|]pJm2qQmYp_%qQpMtdqQn(~NnVamaOr>^Imgz+w7oin?w7oi^0w=nMpsu5azupAm9-xknhaw6o3|!nhasWOb&tEutbn~tEoZb^P
mbzLnxVm9bqJbxUneCvgo3nkn&vgaxPqQz~qQy5qQ_!psmUMm2CImIoOau|^Yt8ritId_8s9dpVnRJq(rop8oNd~~zVurn>o[dnXVv+^ErPtzark~baq!p
u|!nhap+~basa ykatMppneoroMykau|^$t8ritId_8s9dpVnRJq(rop8oNd~~zVurn>o[dnXVv+^ErPtzz+s+sSy4qbppnen?s+sSy4w5pq21.pv-q>sP
v_nlneuT_%q)psmXqQnJomnMpsm!Rx=YqQYm9qQBmqKm9rQo3EtDqQsNoi^9Yp+qQFnk((;mDD(mI(wqr<av(q4oXvn^5a_tnMo3oJmJzupAm9amQGm:mF
o*qQs?auFEqQoaUnfxknhnMo3wGqjx$utbn~nenlpc;yk~%n&mqqQPoTCm>qQs.nDpsE^Jo3wGqjx$&nem^qjnw(;mDD(mI(wqr<awZq4oXvn^5aVnwGq|
FmjtD o+vQdpecp^vQoiuT_!au|^Yv0u[fsUfsafw5fxOftg~EA>C:_udqpu[fsUfsafsNsp^Du[fsUfsafsNsp^koN:qF~ss^u[fsUfsafw5fsNoiM|qv
)ptqQu|^YOu=>t6u[fsUfsafxOrP:nlpc>$qmxqrBP,nc:u[fsUfsafw5fxOftg~EA>C:_udqpu[fsUfsafsNsp^Du[fsUfsafsNsp^koN:qF~ss^u[fsU
fsafw5fsNoi~?mh&qQu|^$Ou=>t6u[fsUfsafxOrP:nlpc>$qmrP:xO]v0s?[v0s?]v0xM[v0xM]v0qV&tR[v0qV&tR]C~;[C~;]C_^[C_^]Cvd[Cvd]C_
_[C__]D__[D__]Dvl[Dvl]qps?[qps?]qpxM[qpxM]Evd[Evd]qpqV&tR[qpqV&tR]qpx7[qpx7]G_^[G_^]G:xM[G:xM]Gvd[Gvd]G:_u[G:_u]pPsa[p
Psa]Hvl[Hvl]^Dw5[^Dw5]^Ds?[^Ds?]^DxM[^DxM]^DqV&tR[^DqV&tR]Ivd[nDrGmcIn6zrIJn0zrIJ]J_^[J_^~^:_u|m:_uq(mj]L~;[L~;]L:_u[L
:_u]L__[L__]L_dnD[L_dnD]Lvl[Lvl]N~;[N~;]N:_u[N:_u]N__[N__ePw)o*meBnvmaOr>^Img]vY[vY^Ms?^Ls?^MxM^LxM^MoXsU^LoXsUn6zrOEn
0zrOE]R~;[R~;]R:_u[R:_u]R__[R__^x~;xq~;^x_^xq_^^x:_uxq:_u^x__xq__]T:_u[T:_u]T__[T__]Tvl[Tvl_Bw5^yw5_Bs?^ys?_BxM^yxM_Bt
goW^ytgoW_BoXsU^yoXsU_BqV&tR^yqV&tRn6mPmB_^n0mPmB_^]Y_^[Y_^]Y:sNspZ~;[Z~;]Zvd[Zvd]Z__[Z:tcwCxx,pFvl]BuPfp<og[B:p<og]sf
puzL[sfpuzL]w2nsCuP[CuP]sOm|CpCDtIuPfp<og[D:p<ogo[~S~t?]sy>SnLW<w2_8uP[FuP]GuPs9n(m^[HV]tSueIu=>KuP|muPro:ogdv8Bnuvl]u
^MoN:n=od[N:t|n?~(^Ms.w5fxv^Lxv]OI[OI]PuP[PuPrhv4]x;ut[x;ut]zIrhsyEtVnSnt[T:^e]TuP[TuP]T:xRdt6xv^yxv]^,|^uPrPuP[YuP]Zv
l[Zvl]~uu*q!o*[~uo6q!o*eums%rhutvl]x;^P[x;^PrhuTG^+!slu==W^|Np6mXmICnpm$s8_cCnpm$c!nEqZ%nWnpm$cw+nWnpm$]v1__tIy(mSZ__[
v1__]LJroy(mSJ[LJ]NJoNy(mSJ[NJ]v0x7[v0x7]^Dx7[^Dx7^Mx7^Lx7_Bx7^yx7_BsNmcn3s?^ysNmcn3s?_BsNmcn3sU^ysNmcn3sU_BsNmcn3x7^y
sNmcn3x7_BsNmcn3u[^ysNmcn3orrxu^E]v0sNmcn3s?[v0sNmcn3s?]AqErDn3s?[AqErDn3s?]Aqps?[Aqps?]Gvl[Gvl]G__[G__~^__|m__^MqV&tR
^LqV&tR^MqV&tRoks?^LqV&tRoks?]~upPx7[~upPtcwCJ__]v1tIy(mSZ[v1]G~;[G~;]HpOnCv+^|NoN:u[[N:u[]v0tgrDn3sU[v0tgrDn3sU]AqpsU
[AqpsU]Ou=;n3sU[Ou=;n3sU]v0oXu[[v0oXu[]v0uTxM[v0uTxM]qpoXu[[qpoXu[]qpuTxM[qpuTxM]^DoXu[[^DoXu[]^DuTxM[^DuTxM^MoXu[^LoX
u[^MuTxM^LuTxM]R:oXu[[R:oXu[]R:uTxM[R:uTxM_BoXu[^yoXu[_BuTxM^yuTxM^x:^[r*xq:^[r*]T:^[r*[T:^[r*]YqVH[YqVH]pPx7[pPx7]N:t
|n?~([D:~T]rm[rm]ZuP[ZuP]Avd[Avd]qp_u[qp_u^MsNmcn3s?^LsNmcn3s?^Mxen3s?^Lxen3s?]Ovd[Ovd]OqErDn3s?[OqErDn3s?]Y:s?[Y:s?ro
:~ToN:~To[:~TdnDrGmcJtIqTpbp=pVQP pbr.]Au=>Cvl[Cvl]L:ogo[:v&!r9xqx>pOtVs%tzx>pOtVs%]G^+!sl[G^+!sl]Bu=>UrQo[~SVdEvl[Evl
]Jvl[Jvln6xoQuP s%[QuP s%]Rvl[Rvl]Yvl[Yu=>u^<!pA<u^!pAt8uPdw2nsC:~TtI:s%foddsy>SnLWolumoddw2>syw2Egumodriy?syw2>nDrGmc
Ju=>GuPn>Cx$Gb^ZG[Gn(tfv%mcxvo[~SpVpPoddHvYuPdIu=>^(b^ZI[L_dw5fBm;TfxRdm0^~o[~SMfumt|~(p8uPoN:n=odfxRb^ZN[ogx1Ob^ZOE[C
y?wDG<pAnRu^Rfumt|~(godur:t|~(fs%fnPmooddsyR:nPmoodb^ZReuTRxquPdzIdnDrGmcJu=;n3odn>m_^>syzIdzI:~To[~STo[:xRdUrQd^,|^uP
o[~S~!z$b^ZY[Z:xRf~Td~uu*svnWm!LrhG^+!slcpA%^|ozmIq8n&meFm|x)mMpLuTG^+!sln7TmQTnLmeCr6ImT^7mICnpm$y*s*B[Cy?w2tE^ZGuPeH
[J:vxo*-s%o[~SKb^ZL[QuPrhG^+!slu==syG^+!slvl[v1 pbp=pVn2Zo6pbp=pVv1 pbp=pP~To[mcpbp=pVnGtVpbr.o[C pbp=pP~T^tm9qrpbp=pV
Lmcpbp=pVLZ pbr.rh^7mT^7mIpMCnhmhpLBsemXmIpMCnhmhnE[u^pPnPmoodhn3s%zT|Gxou*umoddJuro[~SRfumodrim*uTRv+rPpdm|M=oXPm|M=u
^CmUsYmaOr>mqpA=syCmUsYn?vbwlcn=vbwlpX^+!slcsyG^+!slcn=tmcn?tmcrHtmcsstmoCn*s0 ykps%uOo_|GmSqbpp=s?msCpc;ykcoroMykctMq
bpp>s?doroMykncCpc;ykco(~FnWvgcvbo(~FnWvgoCmXx1n?vbwldn=vbwlcrHyMcssyMcw=nMoc(nhqQxMaopoWatgoWaqV&tRo3mpw5aoXnlpc;ykzT
|GmSRnUn:v?oCmqu.yky*Gn(tfLn>^EdsyG^+!slq^q&mj-sEqDo+ogqqmZqDo+ogocImEx;ogcoUqDo+ogq^q&mj-oUqDo+ogwVs$n2p!p3x;qxwVnN n
2p!p3x;qxcq8n&micmwnzs:mjuGcoXmaOr>mqpA=tMsstmdrHtmdn=tmdn?tmurmiocpZoroMykdoXoroMykenlpc;ykctMqFD=~fCvg_3Gs$sEqDr~_bs
EqDr~p*Gs$oUqDr~_boUqDr~wULFcv*,mgLFctMn=o,Cx%oroMykbnlpc;ykmRn*s0 ykbw5bs?bo>pptExMbop|4sNvyodvebtg|4oXnlpc;ykmR%&bqb
vr|4oXqbvrsxoroMykmRzpwibuTxMbu^^[vemRu5vebsy^[vemRu5 rDp+boroMnlCyI_Enlpc;nlCyIojy%yMr*xGyMr*y%vn|4xvy%vbtg_ErHyM|yss
yM|yw=nM|yxknhnM|yzm!osmeod|yxR|yzdbsNmc_EtgojmRu5r*mRE^JbqV&tRbqbvr_EBm|DG;_EuToX%nLr*mR%&r*mRn*s0 nlCyI_Eq>oM_EuTq>o
M_Exe_Es?|ytMpptEoXtMpptExe~LmboSTqc;~Lbxxqc;~LmboST,|!pm~Lbxx,|!pm~LxGvbtg_EuTBm|DG;ojmb_pojnxpTtB|yXvebqbw5boXo>pptE
oroMx;qxbnlpc;x;qxb|9 wMm9ndKmD&m:cm.!Y~<nnsfOp1w^tPbBm|DG;|4z~nM|yoXqbvrojy%vn_Ev;xe|4HmUOuDn:veb!o_y!r(vey%n?m?|ysBm
?|yGp=mgM;vtm2xGm?z(oWy%vbtg|4Fm2m^?bXr*y%m?z(ojxGm?z(ojdn3rHm?z(ojcvbtg|4oprDp+bvu|yoXtg_EZmCZpTveboXq>oMojcq>pLs?doj
cqFD=uTq>pLpGm?|yu|^$olq0p:s3pl~reu*Mu;wmeV|da|9^Ymg?[mg?]xgn&,n(s:[xgn&,n(s:bNn5m2!r,tNNn5m2!nM]Pn(pAYnppCpbn(m^[Pn(p
AYnppCpbn(m^w4w^tPn0syLmwAnG,mCm^o;o5nOLmwAnG,mCm^o;csy|nLmwAnG,mCm^o;b_!]s!T~RsfOvym.!Y~<nnsfOS]!x::sfOvy*obnGm0IA]E_
G:sfOspE?:sfOsp^(:sfOspoPmUn&qS:sfOspoP^,:sfOspwDp4:sfOS[^(:m.!Y~<q=sfOS]!pAt8n+ygn(tf~tueE_Gtzn+<n+<$n+<tSuevXP<v8Dxa
~DnXXnRmUn&qSt*nRRnUw_SmCtf?nX^,dpAnRnLnRp(dwDG<^(:m.!YmMuq^,:m.!YmMot[!x::sfOspE_G:sfOspE?:sfOsp^(:sfOsp^,:m.!Y~<q=sf
Osp!pAt8n+ygn(tf~tueE_Gtzn+<n+<$n+<tSuevXP<v8Dxa~DnXXnRmUn&qSt*nRR~_n$!,mCtfSmCtf?nX^,dpAnRnLnRp(dwDG<^(:m.!YmMuq^,:m.
!YmMuqmUn&qS:sfOsp^,:sfOspwDp4:sfOSn6otIo;bp*?o;buD?o;b^,uPo;ncCpc;n3odo;dsNmcn3odo;bpAIo;bs:o;botIo;rhxgp]Kntq,[xgp]K
ntq,bmPn<mCm^n0mPn<mCm^rhpbn(m^[pbn(m^rhKntq,|mntq,brVn(s:xqn(s:psntn:uHrVmgIxqmgI]trI[trI~^mgI|mmgI]oSI[oSI]GnNIA[GnN
IA^xt5m^xqt5m^]n2I[n2Ia|9r^maq,o;bRnUo;bLmwAnG,mCm^o;rhs!Tn6uD?o;bLmwoO;E_Go;bsyLmwoO;E_Go;^xnUxqnUn6LmwAnG,mCm^o;crV*
xq*bRnUvlo;n6syLmwAnG,mCm^o;o5nOLmwAnG,mCm^o;csy|nLmwAnG,mCm^o;psYm|Lv)^YnB:orrxInsDJ>GJ>s5mjovpCI>v1yKYm;mDnhmh*-s5mj
ovpCnRYnRJ>LJwYJ>tTmgq(J>^Dorrx|JnXv1xbt8>rx|<tI>I>z3tz>nR|JnRuqm;dnkdr4~~>m2dnio[>nXEFdrgtT>q]dzbmonL<Hn1nMrPm2nXSoJT
nMd>YnXp$[t8>rx|<tI>I>z3tz>nR|JnRuqm;dnkdr4~~>m2dnio[>nXEFdrgtT>q]dzbmonL<Hn1nMrPm2nXSoJTnMd>YnXs_nB:orrxInsDJ>GJ>s5mj
ovpCI>v1yKYm;mDnhmh*-s5mjovpCnRYnRJ>LJwYJ>tTmgq(J>^Dorrx|JnXv1mg]wDp4[wDp4]YoO[YoO]tSmMxrE[tSmMxrE]zlYnh[zlYnh]tSmMxrz
lYnh[tSmMxrzlYnh]BmCyvnh[BmCyvnh]tSmMxrBmCyvnh[tSmMxrBmCyvnh~^mh|mmh]p([p(]FmVA[FmVA]oso2SA[oso2SA]oso2Sv0oXoroMyk[oso
2Sv0oXoroMyk]s5[s5]mqmwmEwDp4[mqmwmEwDp4]wDp4:mMTnS[wDp4:mMTnS]w$[w$~^ntq,|mntq,bqKSnMpsx%CYm|Lv) mMTLm]zm!osptcsMnnPr
=U_~)sVyur=U_~)nJKr|mM=^VqKSnMocoTnp&SnMpsYm|Lv)uHrVoSmJ^Ds%xqoSmJ^Ds%^xnkm:oJTnMxqnkm:oJTnM]m2:mMm$[m2:mMm$]|<:m<sZ[|
<:m<sZ]|<vl[|<vl]|<_dod[|<_dod]z3_7[z3_7]ZqpxQ[ZqpxQ]ot_7[ot_7]ot:q*r9[ot:q*r9]otvl[otvl]skmoKnC ot[skmoKnC ot]m9_7[m9
_7n6zrp7|<n0zrp7|<]Pqps.od[Pqps.od]qwzNmhpCm([qwzNmhpCm(]ni_7[ni_7]nG_7[nG_7n6mP|tmZmJUn0mP|tmZmJUn6mP|tmZmJUvln0mP|tm
ZmJUvl]m(_7[m(_7n6zrT;Tqyn0zrT;Tqy]q]_7[q]_7]q]:q*r9[q]:q*r9^xHm(xqHm(]qwzNmh*|o[qwzNmh*|o]qwzNmh*|o_7[qwzNmh*|o_7rhwB
OnLot]z3:xM[z3:xM]otuP[otuP]m;:s%[m;:s%]m9uP[m9uP]m9:s%[m9:s%]zNKnzmh*|o[zNKnzmh*|o]tAs%[tAs%t*!OnLot]v0xM[v0xM]v0xO[v
0xOn6zrnnnBn0zrnnnB]nB:xM[nB:xM^xnLpOxqnLpO^xnLpO:xOxqnLpO:xO]z3:xO[z3:xO]ZqpxO[ZqpxO]qwzNmhpCv1E[qwzNmhpCv1E]^Ds?[^Ds
?]^DxO[^DxO^MxO^LxO]ogx1O[ogx1O]ogx1s^xO[ogx1s^xO]qpxO[qpxO_Bs?^ys?_BxO^yxO_BoXsU^yoXsU]q]:xO[q]:xO]|<_7[|<_7]Ym2t6xO[
Ym2t6xO]|<u=;n3od[|<u=;n3od]m(uP[m(uP]m(vl[m(vl~^mUo%n2|mmUo%n2~^mUo%Dp?|mmUo%Dp?~^mUo%Zp?|mmUo%Zp?~^mUo%v1p?|mmUo%v1p
?~^mUo%Lp?|mmUo%Lp?~^mUIohp?|mmUIohp?~^mUI,p?|mmUI,p?~^mUo%Tp?|mmUo%Tp?]syZE[syZE]m;uP[m;uP]Lm([Lm(]Rm([Rm(]p$E[p$E]QA
[QAn6mPmBEn0mPmBE]Am0~zot[Am0~zot]m;_dod[m;_dod]m9_dod[m9_dod]PqpxQ[PqpxQ^xHm(_7xqHm(_7]m9:n=od[m9:n=od]v1z3[v1z3]Dq][
Dq]]m;_7[m;:wftvoP%MqC*^Yo)BpFr4GsFtI<EnLtz<EpVn+dn9tzxb(nRnpWN^EEpVC<Kr4~_Jygm(Ddq]Hp8r4YnRNmLdzbVnsnL<rnpVJmgpVzwqyp
VnEWdmMWNdmQpVCns|[WNds:WRdoKpVOpVtrHw4o_|GmSn=vbwlbmaOr>^Imgbnkx:mhmcqxb_%q)mRu5b_!bqwq>qL_s[u^o)BncYBpFr4GsFtI<EnLtz
<EpVn+dn9tzxb(nRnpWN^EEpVC<Kr4~_Jygm(Ddq]Hp8r4YnRNmLdzbVnsnL<rnpVJmgpVzwqypVnEWdmMWNdmQpVCns|[WNds:WRdoKpVOpVtroxzrEnL
yvIWNcmS|[vlbw6bzupAm9pqq6wZpSn8%MqCpCEu4mVYqQv(pSn8%MqCpCEu4mVYqQ%MqCpCDv%qQoPmgq>W nlCyIn+yCHTqHEGqZtU!wUmOqkAQEF Qo
O|fp4mYLcmMrnnqmQqLzY%Qq7u8T)n|mMVcnGVnCpXm2zIp8UQnuMpXm2moo)sFxH%r=nvp!p5m;wknnozmYLq7ArTmsTyCo6m(FUpkocmwAoxm^HmaApk
ocm2pk<oKFnwp[r3)QngMp5m;wknnQn+*)Ym2|PnHp7YmUm]Om0coTU~$n2HndZ(mDbqxscSmDAy>bo&T,mgV)m(?FugGqZdq,?pVQA_~p1t5m|QpYyd=q
yGqZpdA?oxQA_~p1nUv8dm(SoAmn Vo9cm_Bpcp1nuoztVmDnTmaIQcm&nGGbw%scQsObo&mJmjFtEw%yunzEQbo&TzZs$nDn7s$nDbw%,p|PnzUQbqx u
unDctNnDbw%ohmw m(Fs5m(bo&mJQA_~mcQoO*q3~nmSr2_3nmyy_9cnumOqq=Vo9qko)w~mgnmnGnms!^]wKotFyGFs8m&^]wK_ic_icwKNmwn4mw~[m&
pkmsYw~wKP=P=wKtTAm.pYSAm.xHoJ^smotUw~?V~Rs!mEpxbzrYsem.tVoXVo9|^o9 s!DdoXs!Dbw%vvm2zIpXm2moo)sFpqB.zXn&ohpJm2nMrz,*|P
bn_w$_t;qxm2rz,sOnqSn(VoObNpJm2oyveazXn&-(wqnWnK;mqw$boZrpmqOqzzXp]mjyezXn&-(wq pMnToTm0nMpYp7qKqQsOGH*IqQzXn&nWu5bnun
Gug|vbnJEn: qIEnMrznTm:RqHmf!mTnUq%!o)mgmBnzS!v8c!o)H;nzS!v8cmjH_~nwmTo6!o)w9mjm. !mTnUq%*Hnb?pkmfnhn0xf?pVzrr2:v8:n|p
VZA(qhvW)nuMMr%nzmjmbnkn&vgrhqxb_bp|nGXmJqxbyWopw%oyb_!rhotmo^^m| n|oxy3qlm%:m^n.nn^S_zsxx|:_zsxr2:y3Ar*cn|pP_zsxr2_3o
xnGHnT%Bpc)nGoxuDoxp?nkcm(oxzNoxD!c$!^soxZA(n7xh~]m9n7ngp6ngc?oxZ|Pms(pXm(w~oKmgpPwu^Sx+ojqh%mh n|pPuTVfwuoWfx+|4?mrEm
;rhtroxQsOyGFs8Mcm&nk_j_]mgoxx|msm%taSm!)n|HbFvWoO*bnuM_~*_0nzmjT*bFvWuLnuMm^_0nzmjmbm(Dnumbs5mwbm^Dnuo6|4_zsxojmbnKqj
x$r2buTnuMm^bqxohOpyGHmwNuLZW%AotYbqdnMpaV ~EtJuGpaV ~EzdbsynuMm^bFvWv0pinDvyWo9nvy3Ar*azXn&-(wq wNnezXp]pMtdr,n2CsF!u
g|vbqKSug|vbs>o&uGuXrhnDrGmcp*pVQsOn7wGqjx$r2msm%mBnzmTdsvmBo9nv_zoWgojqqmZ y3olr2ex|sG:_zsxxf_zn|oxTnGoxTnGmgoxp*Eoxn
GpPwlex+rDoFvhp1rnoxnGmgoxp*mgoxwE_z^SwuqbsxNn|oxDn|oxwEx+sxTq]oxTq]mgoxn.!p6!:wlezdgnVpa?oxnupDp6nupDp6nwp6!:x+rDoFvh
udt4rlsxRmQoxmQHy(Vu;miezdrCmpVr*ezdokop^Swusxp?oxmQpPt4rlsxqym9u)okop^Sx+ojhn3x+sxSng:wuojex+sx?pPx+sxA(:x+sxnDrGmctr
oxtrpPopo_VmeojfojcnEoxtrpPx+ojpdEmgoxQsOvdex+sxoKmgHn7pOtVotFyGF:wleopsxq2yGF:x+ojcp4Fdumwln4x*Eoxp4F:wuojpX^poxp4F:x
+sxv8y(Veop^Sx+oWgoj_j&u)s9HmwN)Rpv&_js~wlex+sxmgo6mYnlm(mom&=Tq]pPopsxmgpPn|o6~Ex*!eum_zsxnGHnT%x(?vvO!cx|:wlqBnCGHo
s O=O=nbYvonCGHosyvnbx|:wusxpLF%mh n|oxn|pPs%rCmpVcx|qEsx=n|pPx+ojdogmQq0um_z|4w6rhyan0xfy]UmQ,ng:v8:t:mj_XsO:v8:r2taS
m!<q.wtv8 r2dp?nkdp^nDSn>xhb_bp|o)|PmbT%mJp|RnK m; HosBn0xfmqommerTnsm<n?w)TnNvprTnsnDrGmcz(p|zNpVq.oYcoUugp%sEscn.)x|
cn|oxxfn|HoNO&_1mTC;oJ,AJnuHbnkPp;waz0oUsldsEslbmqommesEsl:nPLm0mEtdmQn0tMm&nkrhD!:uTV^spPuTVa|SsQmezXn&-(wq sWns^fnez
Xp]rVmgm9u)p6ngu)pXm((u)rz,(DHo%n(~NnVdnJr>nJmhnanTm9rhmgpPuTVo3Ym|nl _bp|p!pTr.mbm<zP(Eq|w6mbnKppEq|w6mbm<zP(|;nWvgmb
nKpp|;nWvgbvSCvgmRvg,oKWmerkdp+mbm<zP(|;nWvg,oKWmerkmbnKpp|;nWvg,oKWmep+mRo~mjtDbHnym0pC|Wm;nhcm&n9Bm;nhmsSvMCnh_Vqwq>
qL_srh!maHn7wGqjx$!maoxp*$pXn(!s9%momwndD!vWo5rGmcD!Arpm|moqq=x|qkAw~mgv6nG$s9%momwndYtupVw9vXoxmTm^DHocsFn4mwn7nkotv6
n$!,nkotv6=P=syPx2ngw9Qmaoxm|motUw~?WcpMmh*nHmg$s9t2!tIpDvW_1$Am( sxojo5uGbZQmam( sxojo5uGbRBnznnsx_E|nZmTm^ qvdnN~FbH
Bnznnsx_EHBnzA-ninznnnDuGbninznnsx_ERpOm(bFnk((;nDbm_momoo)uLRs5otzNbpiqbrl^S_Ex+~E_E|Wnpm_;vr~E_Es]mhCbogmQpkw4rVqVm.
pCZm(_ZpkmapVFnezXp]mSp*pPx+pRmfYr*ezdokx+^Sx+q4sBojjn3wu^Swuojokop^StJuGpaVr*rCmpVcwEwu^Sx+q4sBojp6!:wuonmfYr* nVpa?u
*tJuGpaVr*^sHu==qym9:t4rlsxA(:wu^Sx+q4r&^SwuonmfnvsxtrpPwuojex+q4sBojcoKmgpPop^Sx+oWgq4sBojcm&nkvdfoj_js~wuojrCmp?HfVs
8M:og^spPwuonmfnv^S_zsxqym9:wuonmfnvsxm(Hy(zXp]mS?Hr*in3pinDSn7xhy(zXp]mS?o6n3pinDp1mQHy(zXp]mS?o6n3pinDp1m(Hy(zXp]mS?
o6sxr2:|SsQmezXn&-(wq q[pioWhp^sxF%mh n|pP|SsQmezXn&-(wq q[pioWip^oWioZr*cx|:|SsQmezXn&-(wq q[pioWhp^sxn|HrQmQqp|SsQme
zXn&-(wq q[pioWip^sxwE|SsQmezXn&-(wq q[oZr*n7xh:|SsQmezXn&-(wq q[t4^SuTVyGF:wuoWa$Ax0mSm(xYo9IY*I_j&nbmj)sk)Lm(qLY*ndo
tsOnb!u,nbzQo9nbm&nknbFAsOnbDm(!nb$A)mTn(nbp4sOnbGNo9IY*In7xhnbnuqLY*ndZo9IY*nd?qLY*ndp$q7o9IY*ndJo9IY*ndCm(qLY*ndT?)H
m(r%m(v7A!nbZAqHmgm9U~[ngHnbnungHnbTm]Z|X(nbGm((nbQAsOnbpOo9x<qwAnPnpbAqwAAnPnpbI^7nPnpbEEp*EnPnpbnKUnPnpbvfmlOnPnpbEp
*nPnpbxDp*YnPnpbOmlnPnpbOnYAnPnpmbs5mwrhyCApqE.NKobwNErh)^Cnd=nbvJm]nu~wnz(NpHr6q7p5rqv$p[)s4RRqHrjB_5r%)LpHAmBOuvm]Mp
HYpH)nquNYpHp$mBOuvm]J&nnJ<nL<mjmRw*mi,oSmJsEqDs;oUqDs;yEn8Tr~t|wfn8sf>sEqDs;oUqDs;yEn8Tr~Nnz!os_scoXop|4sEqDo+maOr>^I
mgboUqDo+maOr>^Imgmbo4 OobDm9Nm9pXBsPm!mwm9mRu5b_%q)bmTJ*Y!*w4D*?Y!*bDmDwDr,?zOnMo3n(%mVpCmS!sOr6mVpXn(*p6!|RIYr6AzYp%
mVcmMnmYv3otsOs8sknmMsFn4mwn7miA|R(rrpYSAAm.~$m_Fcm|motU~:?sObqx w~(-!sOs7CCxTmh_]nuxybo_|GmSyxt7En:yvpcbqx yxt7En:yvp
ctHt|>>o>t|vHt|vHvHo>t|<t|<uLo_|GrVoSmJuLqdnM,oSmJ<t|nXx<o_|GmSItHt|nRnRnsrSKmwbqxoho$nuAw4w%oho$nuqlFSAAQcnNo*r6~pmsT
m^AnbmoIYp$!AuLqwq>qL_sbw% m&nSwq QmVSzYIQA)QmVSzYyaFpYm!nbnyA*Un7p|m^moFA|RsHA~paoPMnVAp]mSpDQqlBmsGmsDmsoxzzm9NqlZcm
VmsqemsKSqlKc!msMc*msp1w~mamsSZmsQc%msmomsnmwimom9Nr%ngms(bsOFm|C_sbt,os_sbGnk(_sw4w%aoPSYm|nlyYM!o)!n(ohG~5wps_qewpNw
pNNt8rgzwtFdp_mTn>SApqztzXp]mSr2:oO?nLmeFvWqG_Hn?FvWoln?M~Mr9en=M~Mr9eoO?nLmeKnzmjfys n?KnzmjfmqmwmEopoWfn?mqmwmEnDfn=
mqmwmEnDfmqmwmEzdeop^SoO?nLme_Hn?FvWq=op^Sn?M~Mqc;n3op^SoO?nLmeys n?KnzmjokopoWf_Hn?FvWq=n=wlen?M~Mqc;~AwleoO?nLmeys n
?Knzmjokn=wlfn?y3qGn=y3uL?mrEm;:o>r>tGm$ y3olx|dwuojrh$s$n|HbBnzm;(;mqmwmEnDb~fmqmwmEnDrhpvs~tJuGpaVcwEtJuGpaVr*c?pPzd
ex+ojcoKmgpPwuonmfY|yqbs%_VnJmwmEqxvebs:nzTz0qxveq3yw^_sEmBmDmE!-JUZcoUmBmDmEwkm^n(eIm^!ol?wUm;bm^DnumBAAy+BmbwGqjx$r2
nTnrm(o?nzbrumEm^Dnubpescn.nnsRm^Dnurhp*Hy(Vr*e_zsx^%wusx?pPwusxtrpPzdokx+sxQsOu)s8M:oXogcxpx+sxn|pPwuojok_zoWiopsxmQp
PnSntcx|z&mHw~mqw!Ynnn|oxtMr2p6!:x+ojn7ng:x+ojcp4F:tJuGqc=r>mjmZTmB|QqkA(:uTV sxA(:x+ojyGFu)xHsOu)okNobrlsxp*Hy(q.sxrn
Hy(q.sxnGHy(nGo6sxmQHy(pvpysxn|pPwuoj nVpapvpysxsOm|CpCtrpVQsOoNO&pdEHy(VcnGHy(VpYnGHy(VpYq]Hy(VcoKmgHy(VpXm((:x+sxsOm
|CpCQsO:x+sx^%x+oWgojs8My(zXp]mS?o6sxorFn0F%mh n|oxxfF%mh n|pVn|HrQmQqpwuojv+mD|:ApVZ|Pb^2mqmwmEop^Sojmbs5mw|y^2wLoj|b
mwmEop(mht[wLojn0oUmB|QqqmZmBmDmE%-RnKn>ngnc(zVsOoNOs~Knzs4oUohOs~Knzs4sEmBmDmEvW-$!vWolAnfSAJnue*-Nm:FrCsP?_Xu,epOQF<
n_w$_t;qxm2n>m~,sOm(bm.SPUnO_bp|o)|Pbu^nuMm^r*mRm!LnvFvW)nuMMr%nzs4FvWoO~:nuM_~*qBnzmjT*bx;o+opsxwusxnSnt sxo+zdcwuojc
nSnt|yw2FvWoO~:nuM_~*qBnzmjT*n0sEmB|QbFvWv0wldopoW_0nzmju)y%m?z(oWxGm?z(oWy%m?z(ojxGm?z(_EoXn?m?z(oWfumnDxGm?z(oWz&bnu
Mm^z&bqx,r5Wo)mcpvpyGHmwyCan2V*pT%Ip)uTC_.nbC_.nb|z%p4brVoSmJ)~hvFrooCnVr?=|J==xCCnVr?m]|Jm]|Xvo|$|M|.pHNNq7~gRs4wTp_)
p_|VxY|Lm(tHO>vfErzohs5T)o9Aorm(tH^dvFu;RrinVr?>|J>zGCnVr?ns|Jns_Q~.y;m^tHPm|mo$A_~r?x3WbmUmbTmQo?p)Unuqe<*UnuT?boroMy
kbnlpc;ykbqdnMnWnVr?t|>U>U^prhQ)pknqGHnqZsrDnqRnqF)Yq+vFRdp_tHu7Lep_b^juLoX^juLwNtEqwq>qLptnMulsEv_nln8nDrhCnVr?)O=vf=
|QsG=UU=M%W%o%n.zYnqrJq+sXrqJrj^+!slcn.Dtwsku$vY!o%*y+rznW_.nb|z%p4_VmS~hvFroctj=xCtj|Xvo|$|M|.~2P~goPwT+whmo|Lm(w4_Ro
hs5T)o9Aorm(tH^dvFu;RdtjzGtj_Q~.y;m^rhKpWnn?q3~nAq%_$oy~RmSRs4RnqoPYq+vFRdp_tHu7Lep_w4wNErhmj_dv&!etNv&!b~yE;qxn7m~mRm
!Rx=nvNn5v! xSdo+rGmcvk~)Dm9mU(r<p6m9mU(r<,zL^zbm:mo%bGnVAoyrhnEwq u~uLqwq>qLptnMmbnVt5oypqq6Gm!s]pkIp)ngsPnH(m.r6(m.r
)m:%p4_VmS~h+wQ^CxCtjvfmsvo|$|M|.~2P~goPwTp_~2VxY~2S)m(w4_Rohs5?_Vr!^d+wQEzGtjvfnc~.y;sY+whUnuoOq3^=mSpknqGHnqZ)Rs4oPF
Aq3^=wNtExJs:bngnuKbIm|bUmjbtR &K%ulp$otmobqwq>qLptnMpqA.xjJ%AmMnMnW_.nb|z%p4_VmS~hvFrobqdnWnVr?tEoPmS=AIbqdnWnVr?O_Vm
S|Xvo|$|M|.~2P~goPwTp_~2VxY|Lm(w4_Rohs5T)o9Aorm(tH^dvFu;RrinVr?>oPzGCnVr?nsoP_Q~.y;m^w4mUq3F.mSvFRdp_tHu7Lep_w4wNtEqwq
>qLptr,~yEEnMq3^=mSZm(rz,s5mwtUngD)m^Dnuoxn~poopNs5? sxwLNs5? sxut-wLNs5?veaoPmDIp$nMnW_.nb|z%p4_VmS~hvFroctj=xCtj|Xvo
|$|M|.~2P~goPwTp_~2VxY|Lm(w4_Rohs5T)o9Aorm(tH^dvFu;RdtjzGtj_Q~.y;sY+^=o>pptEAo%_$oybAq%_$oy~RmSRs4RnqoPYq+vFRdp_tHu7Le
p_w4wNtEm:mo%bmPmBuLFmjtD o+vQdpecp^vQp1&puzLnGt7dofv6n~puzLnGt7oi+A.?yBp)|z%p4_VmS~h+wh=^CxCoPm]vfmsvo)+whq2s<~2J~2y_
zA)+whNNp5)+whNpHNNq7)+whzjRs4wTp_)p_|VxY|Lm(~Rr!^d+wh>EzGoPnsvfnc~.y;m^w4mUq3ywAq%_$oyq3E.wNtEyD|?o+yoqKbnuYr,v[$r,n|
%r,n2BmVnMmRmQDmVr,AmcoWr,~yEEr,NpJm2nMpqztTm;uBUnMnWx%C_.q%sxC_.nb|zr3s<x%u~nnoWrh~hvFro~&=^CxCoPm]vfmsvo|$|M|.~2P~gR
s4wTp_)p_|VxY|Lm(w4_Rohs5T)o9Aorm(tH^dvFu;Rw_>EzGoPnsvfnc~.y;m^q3^=_$oybAo%_$oy_VmStTp[Z)RRs4tjyCot%nnnJp_nbtjvFRdp_tH
u7Lep_w4wNEq3^=_R,o^t2bFmjtD sWobmn |=mEPmLm2mcp|oZdo+mn |=mEPmLm2mcp|oZdpimn |=mEPmLm2mcp|oZdp^mn |=mEPmLm2mcp|oZdo+m
n owp7PmLm2mcp|oZdpimn owp7PmLm2mcp|oZdp^mn owp7PmLm2mcp|oZrzqDUn5UaKsHngAnMv_nln8C_.nbC_.nb|zr3)mhn.t2rh~hvFro~&=^CxC
oPm]vfmsvo|$|M|.~2P~gRs4wTp_~2VxY|Lm(w4_Rohs5T)o9Aorm(tH^dvFu;Rw_>EzGoPnsvfnc~.y;m^q3^=_$oybAo%_$oyq3ywmSyCot%nnnJp_nb
F~2vFRdp_tHu7Lep_w4wNtEoP_R y+HVn(Unpq+m<ngHzOIp$pqD.M!o)!n(nMnWx%u~nnsxC_.nb|z%p4rhnEwq u~)~hvFro~&=^CxCoPm]vfmsvo|$|
M|.pHNNq7~gRs4wTp_)p_|VxY|Lnqqe?ulx~ y;sYoevpy;sYo9Aorm(tH^dvFu;Rw_>EzGoPnsvfnc~.y;m^rhopmQpAulp!A~RmSnLoTxTnTrPdp_LbA
q%_$oybFmjtD o+w|qO-nV-o|mM^kdmnmMEv6p^ofmM^kp1o+mr^F^ko[t7cp^mr^F^kp1o+y,$rhxgp]t]vFRdp_tHu7Lep_w4wNtEyD|?o+yoqKbFmjt
D o+vQdpecp^vQp1&puzLnGt7dofv6n~puzLnGt7vynuT;qxrhnLoTxTohNoNurRrodp_q(aoPS(pDAnMnW_.nbu~o)_Mr3o)uLoPmSo)sHqlo)sHqlxDs
HqlExDv=I_;II_;U_;UU_;nCU_;nCUU_;oTU_;oTUU_;xDv=ExDsHqlI_;O_;vfYsHqlU_;+wh!y~mjx0ot_;m^m(mamjx0ot_;!y~mjx0Go)v=m^m(mam
jx0Go)sHr%*?JnnyCAmhKYo)qH*p$KnnGo)v=!y~mj*AnWo)v=m^m(mamj*AnWo)v=!y~mjx0Jo)v=m^m(mamjx0Jo)v=?!UJnnyCAmhKYo)_e*s!qVnny
CsPmhKYo)qH*p$KnnJo)v=!y~mjx0T?_;m^m(mamjx0T?_;!y~mjx0Dnu_;m^m(mamjx0Dnu_;s]m!Dm(JnnzvsHqH*p$KnnDnu_;!y~mjx0?_;m^m(mam
jx0?_;!y~mjx0nu_;m^m(mamjx0nuYsHp[*?Jnnzvv=oPS*p$Knnnu_;!y~mjx0Po)v=m^m(mamjx0Po)v=!y~mj*AnHo)v=m^m(mamj*AnHo)v=m^_;n(
sknHo)v=Yo)v=mj_;oPD*?Jnnz5v=tjVo)v=?!UJA,o)v=s]m!Dm(JA,o)sHp[*?JA,o)v=m(_;s]m!Dm(Jnnz5v=Fo)sHAq3wh_R !-mTKmwA~Rr!yamT
|)oTmTq(n+mM yanu|)oTmTdpbnnyanu|)oTmTq(n+mM m:|)oTmTdpbnnm:|)oTmTq(n+mM q,A|)oTmTw_pbnnq,A|)oTmTw_p4n+?|)oTmTq(mUx(V<
pbnnKmUx(V<KmUBq%n2uqKmUx(Vnnm(nnyamT|)oTmTfpbnnyamT|)oTmTfGo)*s5mVueGo)*s5mV?q3ywLmG sWns^fEw4r!pbnnp4n+?|)oTmTswo)*s
5mV?bw%r^mwn.!Ip$pqC.$Ao%^OnlmFr^obotndKnUr^m(nRpkUoOdpkpOnRpkwCmjpknNn4Gobq2nbnLobnL|fnLmidnLnNn7O,m]nLob|0=YobYmicmY
nWm(D)sgq,xdc$obsAoNnNv[$nspAU$Am]NobNp%mY n2Kcsg?m]$ob$r8d$|P|f$_[n4obNnbmlnHAIm^ndnJ oaq7nU pAr8cn_|(q7nU pA~:n_|(*p
dnU,n(x:m]o_nT)Yobp$K|b tG)RnbnS Lmi_WnbWOmBAm9n7O,!<tGmhn>U)nU t5v2nS nLnw)obnNcnUohnrHs5pdAIY*pvIn7%nn)m^o%H*-sPoOn7
%nnvHn(dwrnRU>^p>nXUnbpA($U~Rs+Rx=Yo;nH|PTmRrBnlmF,%nnx3>_Qo%m^sFU*em^sF!xCmTKpknNp$m]m^IYn(nrcm^mVAIpknbm^o%tRd$nsn[r
im(T?uNsA$sPm(Tn4yzm(o2cp$m^KK*qh_[zObwNEmRrBnlmF nNpk*pknbpkmUpcpqy7.mTobmSKm]KnU,r8w_?M~&wBo%G^Rm]Cm]wBo%nLqHob?M~&w
Bo%JrZ_TwBIohs_qe<T~0n.<n.rgNN)mYpYm]pw,r8d?Mpd!o%DrZm]mlpdm]PnU,r8cn_ ?MpdnU ?Mcn_,r8pd!InHnqMm]_TnS Lmiw_nSOnmoPzRS*
SKRmV,rgo?qHO,r8cnU,r8pd!o%p_)m]nU ?Mbm;npp(StH<m^o%K*nc<n(dwrnRYrP_:nXU~.wBo%y;m^tHm^o%K&mbnkIr!nSoNs!w4r!>EnR_QYncI_
VKobmT_Vx;m^o%tRd$nsmMriA?pOmR_am;mTq)bNmCp4o2Aw4wNEw4nUohm]o_rhpkMq%GnsNs!pq20.mMBn+*,YtFBm,mUbqxvvmFyvmCnTGobTRu>AnO
qG-n5 RNn(nHCupm^gGmFqDwUGnT)o<mIYmCnTx*nTDmwnTs<uvn8YmCnTx*,p4BnTs<%^BYmCnTGobpAm!t0mEsYYmCnTGobtTmgGt0mEMqHBRnwt0Dr6
SKm!yvmCnTGm]Bot-,nUqrYmCnTGm]xmSYtFBp]tTmgGp6m;sFImFqDwUGnHr>%tUngn4Ym:t0DpYwUGt0Dn4|[mctTmgGt0Drys$nLm9v_r8St0DryGYn
nqut0DoC%^B-v1UmER|kmcM;xxnW*pXmFqDwUGbnSx*p;rnnMnWm(mER|kSrom(qrR|kvynzth~Cn&!nM,orvvCpC-nLq|R|ksp-pkyFmEP_eD_[qDmouB
SulR~t^;Kq|GCmCswy_m:swSn5oNpTvvCmCswy_m:tIKq|R~tohpTbwN=vb^f>rTObqxnHSDpmR|kSn4p4mcBZr8ohYo%ZLs<%^B-v1UmER|kmcBZt5nTm
CnW*n4p4mcBZr8,GtKR|kp1nL;MGm]tTnn-pARnbxjqrR|kmcGY&swYnzcnN pknNvvY&swYnzulY%qDwUSoc%qDwUSrhK|$~2y_|.q7^)Mp5Sp5mop[Zp
[ZnquNZnqZ)-)wvwTmo|Lnqr%o?)nPXo*-mv Rr%K)Rmj~Rr!^dvFu;Rt+ep_d>_PnsvfulRJni,UohGnnmqryNn(nHCngtHsyp:IIrzohYo%ZmTohAnnD
qHNnnLD*bqx pDyHq7!U?ulLCo%R|kp1YnN R|kp1LC;tTAnW*ocnLUnW*pXtGnWpCRGYmiSp8meRGYmip1uTMnLUnW*mbnKvto*p)LC;tTAnW*p8nLUnW
|fuTMnLUnW~:mSuqpkygygrgq2<C<nL~5<oPNs_qe<T~0n.<n.rgNN<ue~0D<DrgN<P<pAt8t8rgtftT<Tzbv1<v1rgW<ZrgZ<-<s_zwmTdzbo?_e<rg<K
o?<nPXo*-mvmBolYolmj_VKq%Rq%zNusZt5nTmCnW*mR*qFmTnap)r]nHEoOdsip*oOrinN nG-nXSBnK -nL!mbo4^;m|LnHnbRmY RJ=Pngm^vvD*rym
Y RJ;RGYnnqucpAm!yupHmDnHply_Imc-pkYoTswSn5 -pkYoTus^~o%-pkYoT_V_R R~tohpT R~t^;K%swSn5bqxnHSot-,nUqryynTGobRGY*ocy_n(
yvmCvvInTGobRGY*n4|[mctTmgGco<mIBRDnnRy_n8YmCnTx*nTDmwnTs<uvn8BRDnnRy_n8YmCnTx*,p4qTm^awZpSmi,_SmMqQv(pSmi,_SmMqQwZpSm
i,_SmMnMz&oiv(pSmi,_SmMnMz&oimMBn+*oy m0ngn8MnLpCR|kp1^ooTn8MnLpCR|koi+y7.MY*Mq|mSK|$|MpHy_|.q7~gwTWu]nqp_)xYpCxn|%=Mp
y=|XUtHTmf vH^dzGMpyIp:ns;oWulu~)zdr)m:r3)y;sYnzoOmR&^nyHp)o:mIYolmjzWolm(rhpEoO,uLwNEul~WugtDn7EtDmbo4 nSx)mMpLCmtmOo
*msmnnkm9nao*pXqCmMnEbrVnqo?)vFurRrodp_tHvFu;Rt+ep_rhv[ohG~5rg~qt8p*mR&^nyHnMnTpyo:mINqGm^fmTbrVp4Wr^%m9t0bqdnM,p4Wr^%
p7Ex<x;qx,p4Wr^%p7m($IfK;PnUbmPyJu4yuWobK%p7$qGPpObqdnMyJu4yuWobK%p7EUg^przyJu4yuWobK%p7|C1f|C2f|C3f|C4f|C5rhtxu4yuWob
K%m9ohNqGYpOfGHpOtHozBnnK%p7nRotp$o6Oq0plEtErVHpCuqpkyg<C<Zwps_Dwp<pA<Ft8<~0m(mR&^nyHnMzZpCo:!mBuLqdnMzZpCAol^A^SwKYrz
zZpC|C2|73|75|76riOu>oTqDw|2e|C3enkx:n:qD&ErhtGm^o%wBAmwqrFAultGm^o%wBAr8qDw|5mbHpCsWns^fErzr^t2mMqDw|1|73tHAmVpyolAIm
bo4zZpCs;_%naaozmDyy*^Y*pF*s9*tIwCr4V(tzm9o[|f(q(|fmTSp8*oN%dwCp!tzrBdmj>S*o[%dmwdpA%dpk%s9H*zV%dmo_ZnL(ri|fJoTrioTd^O
^E|fJH|fm(>xbt5>W>rBdnU>oP^|d+ztAm9w4mS*r6*pX*p6_]p%V(qkm9pY~:(qB*s8Soc*n4%c&pd%qkrBcmjx2*pY%cmwcpA%cpk%pXH*xH%tUw~nL(
oC*z!oToCoTc^OcX*z!H~:m(=w9t5=vzrBcnU=nPwVNcm;InPpY~SG*ms(bp!pTr.ug|vzT|GmSozmDyy*oh%aozmDyypCmSAp%Hn1nMs8^7!qQHnNnw |
0qy&qrwPyqwP|lcvNpcyqvNv3r;~K_ryquAcqaSyqx._koCxzyq_(cnLprnLcpkprKox$prv6|8oxwSH|l-wPyqNw0|l-vNpc|l-uAcvNUn^wP_=Nw0yqr
;_=wSoxvXn|wAr;~K-uAqBman|wAMvC_r-wP_r-Nw0_r-vNv3uA-x.uA-v<wP_r-v<vNv3uA-v<uA_r-o?nNx.uA-v<_(_r-_(_r-nLprnL_r-$pr$_r-|
8oxvXn|wAuAqBman|wAo?nNuAcv<wPcv<Nw0cv<vNv3v<r;cv<MvCcv<uAcv<uA-wPcv<o?nNx.v<_kcv<_(cv<nLprnLcv<pkprKoxv<$prv6v<|8oxv<
wSoxnLmV^pn5x.nLmV^pn5o?nNqaSoCE_[nLvCqaSoCE_[nLvCo?nNx.P*x._k-wPc_k-vNv3_k-MvCc_k-uAc_k-x._k|)*qaSyq_kc_k-_(c_k-nLprn
Lc_k-$prv6_k-|8oxn|mhEr8oCxz-_kcnLmV^pn5_(cnLmV^pn5o?nN_(oCE_[nLvC_(oCE_[nLvCo?nN_(cnLprnL-pkprKoxnLprnL-wSoxnLmV^pn5n
LprnLoCE_[nLvCnLprnLc|8H-uAqBman|wA|8HyqwSoxn|mD(wSoxwP-vNpc|l-qaS|l-_(|l-wSoxvNUn^r;rrL_?bJr8qy&qrnPL_?cql=q+p$=Em]=n
|m]Y=m]uNpO=O=_TnbuMm]vzw]YnbEnbYndIms-|X-nbp$-m]p$-_TE_)m]E_)nbE_)Enbn|_)m]n|_)nb_)Em]_)=_)Y=_)m]_)nbs!-q+s!-p$=s!-n|
m]s!-m]s!-ndU-)U-A=U-E_)Ez8-Y=U-nbyF-)yF-Em]yF-=yF-n|m]yF-Y=yF-nbyF-ndEU-nbEU-Enb|[-nbI-)I-q+I-m]I-nbI-EnbI-%ya)%ya)%y
aA-Em]%yaA-nb%yaA-Iyq%yaql-Enbp$-nbn|_)q+_)q+_)p$tEJ_[qy&qrwPyqwPqBIuw-qaS|l|l-_(|l-wSoxvNv3r;_=wP_=MvC_=uA_=x.t%$prv6
t%|8oxt%wSH~K_r_r-x.qaSyqx._koCxzcnLprnLcpkprKox$prv6|8oxwSoxwP-r;qBIuw-v<wP|l-wP|l-vNpc|l-qaS|l|)*qaS|l-$prv6vNUn^wPc
vNUn^r;_=wP-x.t%Nw0_=vNv3t%vNUn^wSHyqr;_=MvC-wP_=MvC-x.t%uA-x.t%uA-wSoxt%vXn|wAuA_=o?nNx.t%P*x.t%pkprKoxt%n|mD(wSH~K-w
P~K-r;~K-uA~K-qaS~K-o?nNqaS~K|)*qaS~K-nLprnL~K-wSoxvXn|wAMvC_r-r;_r-|8oxuA-wSoxvXn|wAuAcv<wPcv<vNv3v<r;cv<uApd*x._k-wP
c_k-o?nNwPyq_kc_k-pkprKoxn|mhEr8cn|mhEr8-x.n|mhEr8|)*x.|8H-uAqBman|wA|8oxwSH-Nw0qqprH-r;qqprH-MvCqqprH-uAcn|mD(wSoxwP-
Nw0qBIuw-uAqBIuw-nLprnLqBIuw-pkprKoxwP-wSHyqNw0a^kIntn&,YtFBm,nqHnbHndm()mg=w9Hm]nU)wTLnbLndmT)m0=m0_Wm]LuNHnqHHnbHHnd
Hm()Hmg=Hw9HHm]HHuNsYMnbMndm^)m&=M=Mm]MWqHZqHZUn7ZIn7ZAqHZEx2Zx2Zm]SZuNs4Rnbm|cmj)mQ=mQ|bryWqHqHnbmh~[qHEx2x2m]SuNmoxY
nbmondmoAqHmg=mo=mom]mouNQ)m_xHndQA)Q^CQ=Qm]QO)QuNoPQw]QpO)QuM=QvztjQnqQHnbQHndQm()Qmg=Qw9QHm]oPQHuNoPQHw]QHpO)QHuM=QH
vztjBtwnbBndsk)p*=B=mlr6WsTsTnbVndzQ)nE=pLVm]VWp5p5nbmMc?)nG=T=Tm]mrs<s<nbCndx))rf=C=Cm]CuNX)XnbXndXA)X^CX=Xm]XO)XuNoP
Xw]XpO)XuM=XvztjNpHUn4In4ApHEvZvZm]NWpHYpHyFn4|[n4p$pHn|vZYvZ_Ty_Wrj^+mI<nXnRvH_P>nsWr%r%vondot)oK~=~=m]zMr%uNoPKw]KpO
r%uM~=vztjKXr%XvoXndKXAr%X^CKX~=Xm]oPKXuNoPKXw]KXpOr%XuM~=XvztjuNWnbw]pO)uM=vzzRWO)pA%^|ozmI<nXnRvH_P>m]oPZzYnbZndZAzY
^CZ=Zm]ZuNZnq^~nb^~ndZm()z3=Zw9^~m]^~uNq+YnbYndp$)n|=Y=_Ts!p[p[nbm.cnu)n2=D=mYp6WzknbDm.p6nup[n2=n.=DmYcn.WrqrqnbJndJA
)p?=J=Jm]JWrjrjnbGndp4)oz=G=Gm]x*rjuNoPGw]GpOrjuM=GvztjsXrjGnbsXndGp4rjoz=sX=sXm]sXpOv7v7nb$nd$A)uD=$=$m]$uNnLv$nbnLnd
Cm()q]=nL=nLm]nLWq7nqpAnbpAndx:q7mg=pA=pAm]pAWp5Sp5SnbTmhpYSAp5qy=tT=tTm]tTWp5Zp5ZnbTZndTZAp5Z^CTZ=TZm]TZO_5_5nbnPqhA)
tr=F=Fm]FWq7q7nbPndq,q7^CP=Pm]PuNRq+Mq+Fp$w4Cx%Gnk(ptokqd _$oycqd _$oypXnk(_snxCq)bWmDDSPnltEw6mRu5mbnkn&vgmRvg_1mQpS;
Cvgb_!bp!pTr.ug|vbq[uWtEyD|?u%cy2cmnp;rrFp;co|p;sItlcofp;r+n+~$qOpYp7qKq3whSYtFBm0ugBoOp*qUMuNMw]MuM=MvzqyBoOp*qUBWtww
]BuM=BvzqyBoOp*qUFuNFw]FuM=FvzqyBoOp*qUPWq7w]PuM=PWtEsfmIqxyvosn+tIm2n+dm|Km|Kd|Jm|Km|Kdm.FoOq(m9oOdnLImQ|YHr5TtIm2n+-
Hr5Tq(m!TpqywnLm2nrE;mS)=ndm]nbVpXr%rj=GndGm]GnbGVcnqw9HndHm]HnbHVcwTm0_WndLm]LnbLVocy&=MndMm]s]n4)HNpH|Pn4vZIn4m]NUn4
Vcm_)m_=m_ndm_m]m_nbm_Vn7qHn7=mhn7m]rSn7Vp6p5p[=T=m.cmMcmYp6nbDVp6Lp5Lp5m0pYLndTLm]TLnbTLVpYSp5S=TmhpYSm]tTnbtTVrK)vzw
]zRWnbWVcq+Y=Ynd_TYnbYVocVw4^_mSY>YnRYnsYnXYVp8Vpqq6C*Am.*,YtFBn&mczupAp%=AxCndt]m]vJY-pf;vJtcm|oA_Pndql)vzrwEmB=w]rwE
mBndWt]rwEmBt]zRrwEmBm]WvJrwEmBvJNnzvXImBvJuNrwEmB)pO)rwEmBApHnzvXImBAqlndY-pfEmBpX^+!slcwKnlpc>orrxys vbwld_Hvbwldn?v
bwlurmidoXsUe|Jq*qcnip8pZnDd|Jqvqc>w=dssyMcp%w~_]*pd=q,xCPnds:ndPm]nJm]Y-pf;nJm]tcm|oAmg>HndPq7Aq7vztZPvzPw]tZPw]PWt]t
ZPWt]PzRtZPzRPWvJtZPWvJPuNtZPWq7pO)tZPpO)Y-pf;PpOq7ctZPoC%m|oAoxT=?xCmMcmMndTm]n9m]Y-pf;n9m]tcm|oAn2>m.pY)?)mr=tZmr=mr
ndtZmrndmrt]tZmrt]r[tZr[utm]tZutm]mr)tZmr)mrA)tZmrApHnzvXo%mrA)nmqe=TmMpYTm]qer%=otxCKndtendKm]KvJY-pf;KvJK)otr%vztZKv
zKw]tZKw]KWt]tZKWt]KzRtZKzRKWvJtZKWvJKuNtZKWr%pO)tZKpOpHnzvXo%KpOr%qBWn7rm$-SmTnEnvoKpVtepVzMpVotHoC=x)xCCndCt]Cm]CvJY
-pf;CvJCs<As<vztZCvzCw]tZCw]CWt]tZCWt]CzRtZCzRCWvJtZCWvJCuNtZCWs<pO)tZCpOpHnzvXInWpOs<n7o)Imh $oc=m^xCMndMt]Mm]o_m]Y-p
f;o_m]sYm^y&vztZMvzMw]tZMw]MWt]tZMWt]MzRtZMzRMWvJtZMWvJMuNtZMuNMpO)tZMpOpHnzvXInTpOy&ctZMocHms$manzC*nTn7o)ImhnTn4vZAA
In4In4IIn4m]pvm]Y-pf;pvm]NpHApHvztZNWvZuNtZNWpHpO)tZNpOpHnzvXIohpOpHoC%m|oAq2n4oxm0s8xCLndnpndLm]nSm]Y-pf;nSm]wTmT)Lvz
tZLvzLw]tZLw]LWt]tZLWt]LzRtZLzRLWvJtZLWvJLuNtZLuNLpO)tZLpO)LctZLco:mILn7x2AxCmhcmhIn7m]SvJY-pfpuvJSqHAqHvzrwpuvzSw]rwp
uWIn7Wt]rwpuWIIn7zRrwpuzRSWvJrwpuWvJSuNrwpuWqHpO)rwpupOpHnzvXI,pOqHms$manzC*,n7Wco!n_w$,ocvfSpopfpuKn4nzvXI,KWdnfWn>PW
_emr_eKW<qjuNmo=mondmot]mom]movJmoxYAxYvzrwpuHvzmow]rwpuHw]moWt]rwpuHWt]mozRrwpuHzRmoWvJrwpuHWvJmouNrwpuHuNmopO)rwpuHp
OxYwV=p$xCYndYt]_Ts!m]Y-pf;s!m]q+p$)YvztZYvzYw]tZYw]YWt]tZYWt]YzRtZYzRYWvJtZYWvJYuNtZYuNYpO)tZYpOpHnzvXo%YpO)Yr6IBm0-p
f;~$tZYn7o)ImhyvndmQry-pf;mQctZm0cmjxCm|cm|ndmq|bm]tZLm]s4mj)tZwTRpO)tZRpO)RctZRco:mIRqh=FAxCnPrrndFm]n_m]F_5A_5pO)tZF
pO_5c$vZ-pf;$=$In4-pf;$nd$IIn4-pf;$t]$m]pwm]$v7Av7pO)tZ$pOv7pY$=T$ndT$m]T$x^pYY=p;ndp;m]p;pHmwo9yz xbHnRt5nR~_nUnsrgm(
<Hn4mwo9~zoxHKxHAxCQndQt]Qm]QvJQ)QA)QpYLw9TLHndTLHm]TLnqtZmQdm|dmqurpHp4AIn4yyn4yyIn4Gm]q2vJq2pHp4|An4q2n7o)Imh,xbmonR
monsmo)WvfDnfpf;$>$nR$ns~0v6LHndLt5ndLHm]LnUm]LnqLm()Lox$-pf;$>$nR$InR$nspwns~0$vH$msIqLnpKnHco!n_OmJ>nRns<W>WnRWnsWwp
wYnRNnsN<K>KnRKnsKqHo)Imh xbHnR~_nqtcm|oAGHnXGnUs9mgs9mg>GHnRGrgRnXmqdmQdmQ>m|ur<WnXWnsW>uM>WnRW<HWnXHWnsHW>HuM>HWnRHW
<$nX$ns$>uD>$nR~0qenXTn9o[T>TnG>TmMo[uePnXnJt*>rn>PnRP<Ps9nXGnsG>oz>GnRG<pknXKnUq(mgq(mg>pknRpk<KKnXKKnsKK>KoK>KKnRKuq
KKoN~DnsN>r=wYnRNxanXMnsM>m&zanRtfYnXYnsY>n|>YnRs_JUn7o)Imh Jnbtcm|oAJnsJ>p?>y+n7o)Imh Jndtcm|oAJ~5JnXJJnsJJ>Jp?>JJnRJ
J<LnXnSdm0dm0>LnRmTtILnXDnStIm0tIm0>DLnRDmTroHnXLnUromgromg>LHnRLrgTLHnXTLnUo[Lmgo[Lmg>TLHnRTLrgTLnXTnSo[m0o[m0>TLnRTm
TtznXZnsZ>Z_PZnRZ<Zdo<mIZtIZnXv1nsv1>v1_Pv1nRv1_enXSnsS>qy>mhn><monXmonswUn>mg>monRzbmoo[SnXtTnstT>Tqy>Tmho[S<nLnXnLns
q]dq]>nLnRnL<qeSnXqeSnsqeS>qeqy>qemho[tTv$InMqhtBslxHAIn4p4In4q2In4q2IIn4q2m]Nq2vJNq2pHNp4)WvfDnfpf;$uM>$WnR$WInR$Wns$
WOns$W<$pO<wKv6o!n_w$mBaqVt2v_nl;qxrhp*mGcxTm:qh|;N~[oTn4I&sGAv6nunCpY(N=COp_oCEnCnms](pXmDTn4ozng!n7^ou,ryUm:msoTMc&N
cm!q^ngm(DoxtSDm(DoxEqwm(DoxmDsGoTm0sH_2n$q^n(H*|0p_pdEmGbtrvWm2oybsytrvWm2oypqwhRmwp]mStrHq%trOo6F;Fr)cm!UZ m! nbv4wV
rKc$m!m:AZ $m!mc$qmq^v6*rSZ )Omc|XC qlniCcxx-BucnL-Ou.m]y)n^mrmC-Ou.m]m]O=_]mjImY mjmEmQImERyGmws<p%otmwr^pXcvYcozmlvv
YFq%GpX%rKmwsomB^|NmBcm(GmTZ oxm(EGL oxxx-BucnL-m(Gmf oxy)n^mrmC-m(Gmf Hn4~pm.ZohYmEyCUmENtUmDn^mrmC-yCUmENo5uG-Ncm:A
Z Imcm:mcnd=Jm2pCJpXm2cxx-BucnL-q|A=y)n^mrmC-q|)IpOZ EOoxpM$obrnmDrpv2!Gos EqZHXn7mLInS,n7mCm; xx-BucnL-SqZ,tUmDn^mrmC
-SqZ,oCqkcmMpOZ mMR p;R nmy)n^mrmC-p;R nmDr6m2K**nHEmDCnHJny*nHtUmDn^mrmC-BJny*nHo5uG-v2v*|)q^HpOZ Eo6=MsHAZnT*nTcxx-B
ucnL-m^DRnTtUmDn^mrmC-m^DRnTs8UotZ mTGq%~CR Lo5uG-LcmipOZcmicnup4Z nuEqrDs7$!pC^km; m]|;_2mDoCuMmD$oC!CoCE!Cn7T~:xx-Bu
cnL-v4tUmDn^mrmC-v4cn&m;*wq-v4xHcXmbmim,w%z.|qm,w%mRmqu.w%b%mTuBo;bTqLm^Dm!o;bBm;G$mDo;rhKtUs7m]FucKmcCnzoKmJOudm:xXu*
nleAniCpq^=|k!qVyYxnvorj|Ap5p[pHq7tw)zjwTWu]m(tHnR~.qLv%q7n(tunJDq3~omSxgp]mjaH*mwOobmSxnvorj|Ap5p[pHq7tw)zjwTWu]m(tHn
R~.Pn(tunJDapAI~|P(pumim,w%boXw%pq~ox(t5mEmSxnvorj|Ap5p[pHq7tw)zjwTWu]m(tHnRUpqC.|kB*WnnmSxnvorj|Ap5p[pHq7tw)sYq+oPwTW
qHuLoPr!nRUpqC.pkMoAmSKwwKm]pkm]q2m]Cv$s<m]nLm]y_m]Dx^)mYpY$m]NNm]Tv7p5m]$m]Nm]Bq7nqPm]pAm]Mm]_Tmq_Wm]Vm]moz%m]S)nqwTQ
uLqNPsQyIqd QAQzVvHQnRQInRm_dm_Kdm_nXm_UVdr|dr|YroYroYYzV>QAnRQOobp;P;&^AvmQAx<qd (Hm2yIAQncqHm~ zEnRYrP_:nXw&U<O>s_I>
x3zGvfncUrzohIoto2^s|PMs5wVUUotm0ma(Tnbs]Umhotn9~:n[m:mar6*n9C|bsknmn9nVApkI|RototBoOmsHSDqHn(Ynr,sHq+qLm|n(oCOvYr6vWA
m^S|Rpk~:ogIs!OS*oCn(NUC s:o%KUUoxm0K n9m]p*YY!cpAyCtRnTU*qBOmUUpcmRm!Rx=Yo; m|m;ulo9sPmjm(S*q+oO$nl*w4wNEq3ywSo4 m0
K oOxd,&es]OYes:p:p*p:x(&ePv%ePv%-s]OYePv%-s:p:Pv%-p*p:Pv%-x(&pqywv[x*np*nHnCp4bm;npp(SmRu5bw6mRvgbt4nDvyn9mY,oJmJzupA
m9mbIBpuYtFBm,mlom%Yoym2bzOnLUnWmUsYw6bNnCuBx<FmQ;rbptugoB &q0mrs3n~tEqdug|vbFmQ;rbptugoB oZbwNEq3ywmS)=ndm]nbO=U=EvZ)
nNr6q7)Qrj)sYLu]mop5p[yr)wvuNFr%wwtTzY)m(zYs4Lnq^~ndnLndn9mY t|qdnMd>nRnsnXO>U>nNpF<P<Qyg<tfueD<nL~5<tT<s_W<uqp4<m(<y+
wpI<v1)mhB;>wr_:U>nXnNq(yg<rgP<zbueD~5<F<p4<m(<tT<Z<mj<nL<ZnqzOnLq%nRuqzwF<ZnqCm(:pinDp1+^=!o%G!o%u~nn&q0Vm:r3nn&q0nuM
%plnKngAm^euTnKngAm^us!Unuep^B!Unueolp:Kolq2olColT?wm$olDnuu2Nol?enuePolx:eo?olZm(wnolAoxn9mY !o%G!o%?fZnqzOnLq%!o%G!o
%Gm(fNp4fCqGJm(fT?fn.m(f?fDm(fo?qGCp$fZm(fZ)!o%G!o%vbUfq+zOnLq%!o%G!InHnq!o%G!o%nuG!Gy&*nLq%!o%G!o%Lm(pqztC*Am.*,YtFBn
&mcOYmsYmso)rKo)cnJYpdo)pdWO~$?YyGYqBWo)cm^Y_jYn4o)s8Yn7OYn7o)tUOYtUo)tUWO~$s!YwVo)cmjYn4w]Oy+BpOnvNWIn4Wt]Oy+BpOnvNWI
In4zROy+BpOnvNzRNWvJOy+BpOnvNWvJRuM=Rw]RWt]RzRRWvJRuNOy+BpOnvPo[q(rip8oNn>dmoq^nzu4mBcqYu4mBcn$!pawld~fnDry-pf;RvztZnS
nsmTv7vz$Wx^vzTpwm]T$Ap5LHvzTLnUm]So)ImhzZW>moOnsnUm]tcm|oAGWnXDm9;oz>p4ygWqHo)Imh JUnbtcm|oAJuNp*Am[^;m9;Lu;oC%m|oADm
X!,pqA.npMBq%qd-tcm|oAmPrhK|$rqnqY*pYv7p[zfq7~gwTuNmo|LnqGY*pYmj_Vr!<wIEzGvfncnX>OmbnKvtmemSs_zwpO~R^_mSuqq2<u~<ueN<P<
tfzwmTrznTs5pARvYqBnkpARvY~[-nd+wQnSOq3wh_%q)b_!bwNne?o%m,mSuqX<q2<tT_e<s_ue~0mTt*<pA<tfF<V<rgQ<pk<Tmowp<<nR_PEpVnXOns
nsU>x3UzGtj|C2|73|74|75|76pqB.r=W ?o%xT;mSxfQoltMQolxfotfXqGq2oltMotfXqGq2olsEqDSqGSqGYoloUqDSqGSqGYolxf?f$qGNoltM?f$q
GNolxfPqGx:fm^etMPqGx:fm^exfFqGVqGmTetMFqGVqGmTexfm(fnufBoltMm(fnufBolsEr^VqGXVoloUr^VqGXVolsE,UoloU,U<+wQr!qd,oSz1m2f
AqGIIfUfUUf^AyafOfOqGU^Ao)fAo)fUYfOYfOo)fUxDfI_:mSwKVfq2fNfMfKfDfBo[o+qxqieqxqPd+ywsWs3&q0mrs3n~q0oZe^Peo|rCowm9eqJu2(
>$n( q[s;+wh_R mTq0mTowapkMm2o; q,$Am^S|Rs]OnvzM~vs:o%zM~vp*o%zM~vx(pyzM~vPv%r^O~vPv%-s]OnvzM~vPv%-s:o%zM~vPv%-p*o%zM~
vPv%-x(pyzM~vDmar^O~vDma-s]OnvzM~vDma-s:o%zM~vDma-p*o%zM~vDma-x(pyzM~vDma|)v%r^O~vrOnGYnz|Rs]OnvmqCpdIo%mqC_3o%mqCr6Up
ymqCpdv% mqCpdv%-s]OnvmqCpdv%-s:o%mqCpdv%-p*o%mqCpdv%-x(pymqCp6ma mqCp6ma-s]OnvmqCp6ma-s:o%mqCp6ma-p*o%mqCp6ma-x(pymqC
p6ma|)v% mqCu$uB(ni;mSKrj|A|AKq7tw)sYMPp5p[pHpHs4CrqpHYpHYC)wv|Vu])m(tHwI>_QEw4wBmTpOb_boJugtDa?o%$n(yYsEr^olzNq_X<oUr
^olKXolpk<q2<sEnWolnL<oUnWolSolnLwps_mjuexfmj~0D<tMmj~0uc<xf?e~0tM?e$wpt8<xfPolx:eF<tMPolFolpA<tftMs_xfs_zwtG>mTroU>W<
sEt0eo?olSolrgtFd<tMrgwrzn_POnsmT>pEoO,s<&^nyHp)o:mImjfmTemTqDnN mTIn7m~sco%KnN mTndu9^nyHp)wKq2oltMPolxfmj$nntKtMPolm
^usolS~2_R,sPOnmr!olm^I,oOeAolTmf Aolp:Ip:Uq0UUq0plUpls3OAr*eOY|_Aq0Os3Ap:$n( Ap:Onnsx_Rsco%KnN|71|72dpkUp7|C3e|C4e|C5
dr?m(n(dm^I,n(dpkUm9-xT;K%~:tjCx%Cr|Pn9sbp]nDcoSnnsWs3&q0mrs3n~q0oZe^Peo|rCowm9eqJu2(=+yw$n( sWs3&q0mrs3n~q0oZe^Peo|rC
owm9eqJu2(=+yw_RmBInNv+InNpOsPn>|Q|foKmLdnU_:mYKm^nRsytpuc<m^o%Yn(nrdot|fot*Kw&SoOot*n>oOot*Kw&HnNriAnNpqq6Cx%rumEsa y
kbsNnfwlb(n$mVYbr&tLyWnDbX-X|yWmCGLnvvr_Ev*oy|yoXv*oy|ysitdzPosptqc;ojmbTqSGwazPosptqc;_EvcniEmc|4oXvcniEmc|4vcniEmcoj
c~Lbu|pamPmBr*esZo*mBr*y%w7mcrDrkxGw7mcrDp+y%w7mcoj rkxGw7mcoj p+mb_pvImc|4NpJm2p)|4uToX%nLvebw=p)|4oXw=p)^S_EyWnlpc;y
kbu|^$~1vpGfRfTpq31.B!(niEp)nwq%m|CnkrinVs4rfrfKn7m!nNr6m:|PrhsP%<uGr8cyz%<uGr8cs5%<uGr8cr?mQPoluGr8s8 _4oluGr8q^K%qly
z%)nr%<uGr8qB<m^HmaucrjygmD|As<<mTCrq~5m2pHq+? mT~<p8m!Dnnm^Hmauc)nunTm!Dnn!y~ucolm^HmaucpHnnv%sknmue?Wp[<m^win4q7<vX!
r6<KnkBnNoc)wvwTWqHA,pT_emau]m(ulRm2tR*tHuGr8dnwplS%nRrSKploTpcdr?mQPqGuGr8dmT wWp4fuGr8o[!miemQPoluGr8emQPnnuGr8drnPn
+euGr8bAn2qrAn2GrhotF,nzsPqBnUT,nzsPpYZnC,nzsPq^F,nzsPcnE,nzsPqk!,nzsPmsSyFmj,nzsPcxgp]JNp$q3whwNtEP*mMbq,m^nubW(wimR%
yzyun(r8otoxmhKndp!m2m9_1n(m9vYbs]mhs)o;^;_[tIvYtIr8tInNrCm!nNtImidnuvYdn2r8dnumitInN oz~sCx%nGozu*m9n2Pq_nkPnwq_nk^me
p?GqV*q_nkPnw:p?GqV*q_nk^m:p?GqV*usm9n2sw_[dwZHn3w2DuBfnuGeCy?rOKfxddv(Hn3w2PnNfPr8eCy?PmTKfoas5ew2Pmi_1*mM xETnNbq,m^
DnnxETnNaoPSom*niEp)P*n|rfKpdnNz5%pdnNy$ngrhxnUms=m]=Evo)Qrj|As<rqzYpHYp5p[pHq7_5sTtw)zjwTWu]X)m(mR&^nyHp)Pn(miK!t**p$
KzwP*YyzUtHPnNHnwnXP*Ys5nXP*yamTvYt**vgGdq,m&Pn+t**EUm0r8ulq,m^yaoxy;m^mR&^nyHp)PnznNpCm^epOrhKnqSp$bwNtEo9Aorm(rhmQnb
m0nbBnqwKKp8askxdyY)v|!r8mw )nqv|!r8mw nqMnVAoTn8w:r%%OnHq7)v|!r8mwyupHy&nVAoTn8N)uNv|!r8mwmBq7sPq,KmBrj)v|!r8mwvvrqp[
)s4v|!r8mw s4sYv|!r8mwnTqHrm$m2NqDpHmD$m2NqDu]v|!r8mw,y&nVAoTmi,)q+v|!r8mwyv|A)wTv|!r8mw LpHq+CpHDy&BxnUrzqDmtItH>q,Kq
,K >_PnRK%obnRnsK%obnsplmn,sF!r8mw,AmR&^nyHnMohGdH_1nNoLT_1*_[&*q3~nSo4nH(wiohnnm&nGKt*(%BmDnzdJtunwt*nNoLqzm0PCm(yYKr
%LzoL|A^XpHYytpHq7)oaq7nqF_5LtwtwwTsYMLp5Sp5mop[Z)wvwTnqH|Vu]mo)WqlmbnKvtmemSs_mjtHvHnRnsOnsnXw&EmR&^nyHp)Kp8rooNt*uro
[oNY(-mYq(nNulucn4s5?q3whw% ?-mqLn4n|mJ$s!mU ?-mqLoCm2-Wp5moOnrnWm2-Wp5moOnrbwNEq3whmSqex^p[nuaqZ nLyzo%sWns^f=mSmTncT
ncGdnNd!dmT<AsPncAJncn(nc|QronRm:dIpV(_:nCronXUCdtudmwNdU_:m0dyxdEn.dr4m2RdnSdOqed|WdOVdOHocUqDrODnuGcp4|PmTnnqetunupT
ocU-p4|PmTnnqetunupT^smTq7m(nyAqlm(DpdwenTUx)ngdoXs]x)ngpsYm|Lv)^$mqommerxxx-m0sXmeDwYrtnsWse;nio[mfqD>n~pom0sXmeT>Tm
f Hn1nMz$oOdmwBwWDmes5pq^=ozmDyy*nT?VtGnp^Y*us*sw*v.&em9eV(wnm9wm*e(q_*emTudzOu2%e&ep!wnrBemjq0S*wm%emwepA%epk%swH*_X%
emo(enL(eC*eJoTeCoTe^O|d*eJH*em(q0mgeHnBzWq0rBenUq0nPz$Nem;InPeu^G*eA(etjAm9eHn1nMemT^7!nMo3om*ni;w%nH(wi,m!s_PnNxxt*q
tn(<CsPzwm0U,oOnN<ot,oOnN<nu,oOnN<sk,oOnNApq~nnEwqqDo+K%mo*xY%q7Rm9zNrzohIHmo_S)p$Jm!nEwqnTsepppupKmVuLx;p$Jm!nEwq pTo
rzQnOqNPsQmX,pKmV<qNPsQmX,pKmV<ot$sPnnqNPsQmX,pKmVs<yjr*cp$Jm!nEwq ot$sPnnqNPsQmX,pKmVA,nLmqo*m2cru,pKmV)v,m0,pKmV)ot$
sPnn*Unuqe)zdcwuojcx+ojrymCnEwq otmo^^m| qNPsQmX,pKmVql$%zQnEwq qNPsQmX,pKmVAulVm:%p4,pKmV<Unuqe)syVm:r3nnUnuqe_Mr3nn*
Unuqe)syVm:r3nn*Unuqe_Mr3nnUnuT?:s%d*UnuT?:s%cu~nnyHr3mUUpk<skHnCGmUUpk<zQm^GmUs5m(eums%cmMRp$KcmgrFmv t|u~)t|u~)R$n
N t|u~)u~nnnKm(p$n9nTs5nqn1m(Vm:r3)tpn1m(Vm:%p4bx;CnVr?oWuly+HVn(Unpq+m<ngHzOIYql~<mjm^bx;tgsxoXtgoWuloXu~nnyHr3mUs5m(
pqztt.s$^Zolya[u^AtE^Zogx1^8~rxX$xX[u^w2q0Ib^Z~xt+vlxIesyN||w2Oxqr5Wo)mcs3w2s3Ou=>u^OtE^Zrm[_Hvbnsys vbOb^ZPesyReu^Rwm
eUxqr5Wo)mcplsNZmeplu^Mb^Z~!wnxXZoxq8n&meL%^|oz!v_nCyHms(a|9 ^ZGn(m^ev8nuePp:RnUep(psYm|Lv) ^Zm;zT|GmSs*<AyKdogx1BtId>
sy>GdpVnRJq(rop8oNdsyNdnsOnXPuro[dnXWy*<u^<!pA<u^AyKtId>SnLW<w2>u^w2>Go[~SnRKp8dvYdnsw2ns_Hvbnsys vb~~o[dnXmhn2Wo)mcnX
u^M|^nc(pFn+<|9vvn(tf~tue|9 pAnRnLIau|xZqjvBT^$p:R_YVa|9xZqjvBT^$p*?swn(m^u;nUepAp:nLIau|^$UyK_dqF~sD_dqFD_8_dqFDza_dq
FDwY_dqF~sP_dqF~sR_dw5fnPmoodoks.qF~sS_dqF~sT_dqF~sZ_dqF~su^GzT|GmSCYm|Lv) m9au|^$~1vpGd$mHn<m|oK$mquBHoCm*mSIu==mS^(u
=>Pu==s*mSUu==mS^,u=yK:^etI:^e^t:^es9:^eq(:^ero:^ep8:^eoN:^et*:^eur:^en>:^edzI:^e|^:^e^E:^etz:^enc:xRd!x::xRtIuPoks%dq
pxRdw2qpxRdsyw2qpxRn>nLpO:xRd^DxRdw2s^xRdzI:xRdt6xRd~upPxRzT|Gxou^!pA<CesvnWm!Ld^kdsyw2_8dnDrGmcJu=>qjx$Go[~SpVIu=>tSu
es*Ifsvqc>J:vxo*-s%ro:xRf^erim*Lp8uPo[~SM:t|~(oN:n=odfxRrim*Ndogx1nspAnRSuPdzIo[:^edUrQd^,rim*nXVuPo[~SVtzeumxRf~Td~up
VuD?psx%|noroMykmsCpc;ykmbNsP;ojmbnhPm9mh&oybs?-sUbu[-s?bs?-u[bsU-s?bu[-sU-u[bsU-u[-sUbu|^$R|yxM-s?bs?-xMboXsavebqV&tR
vebZmCZpT|yImc_Em!vebpm|4u|^$y9qem9mew2nn^SAq0As3o9eCnWE^Je~1vpDxX$swc^ZGy*mSKt+c^ZLfMy*mSNc^ZNfRy*mSR mqTmwnurCexx,wn
e!x:usep*?rCnLWolFt+:oXs.w5es^sitdzPosptr9ePxXmoet6sitdzPosptr9zWev0sNuds^sNudt6sNvyrHyMve_0o9YKnnrDp+drkboprDrkbWse;u
TBm|DG;_Ezd rkbn2m0q)boXuTq>oM_E!o_y!r(r*y%m?z(oWxGm?z(n3ssm?z(ojau|^Yv0tgoj[v0tgoj]Bvd[Bvd]Bu)[Bu)]B:vroj[B:vroj]C:_u
oksU[C:_uoksU]Dvd[Dvd]Du)[Du)]D:vroj[D:vroj]D:_u[D:_u]D_^r*[D_^r*]qps?oku[[qps?oku[]qps?oksU[qps?oksU]qpsar*[qpsar*]qp
xeoj[qpxeoj]qp_uokxM[qp_uokxM]Fvd[Fvd]G:s?[G:s?]pPopoW[pPopoW]pPzd[pPzd]pPxO[pPxO]pP_u[pP_u]pPq>oMoj[pPq>oMoj]^Dxeoj[^
Dxeoj]^DsNmcn3sU[^DsNmcn3sU~^~;|m~;~^u)|mu)~^:vroj|m:vroj]Lu)[Lu)]Lu)oks?[Lu)oks?]L:vroj[L:vroj]L_^r*[L_^r*]M~;[M~;]Mv
d[Mvd]Mu)[Mu)]Nvd[Nvd]Nu)[Nu)]N:vroj[N:vroj]N_^r*[N_^r*^Mxen3sU^Lxen3sU^Mxen3xO^Lxen3xO^Ms?oku[^Ls?oku[^Ms?oksU^Ls?oks
U]P~;[P~;]Pvd[Pvd]Rvd[Rvd]Ru)[Ru)]Ru)oks?[Ru)oks?]R:vroj[R:vroj^xvdxqvd^xu)xqu)^x:nlpc;n3opoWxq:nlpc;n3opoW^x__okopoWx
q__okopoW^xu)okopoWxqu)okopoW]Tvd[Tvd]Tu)[Tu)]T:vroj[T:vroj]T_^r*[T_^r*_BsNmcoj^ysNmcoj_Bxeoj^yxeoj_Bsar*^ysar*_Bxen3s
U^yxen3sU_Bs?okxO^ys?okxO]V:w5[V:w5]Vu)[Vu)n6mPmB:u[n0mPmB:u[n6mPmB~;n0mPmB~;n6mPmB:xOn0mPmB:xOn6mPmBvdn0mPmBvdn6mPmBu
)n0mPmBu)]Xvd[Xvd]X:xO[X:xO]Yvd[Yvd]Z_^[Z_^]Zu)[Zu)]Z:vroj[Z:vrojdpPvrojo[:sNspW:tg~EY:tg~Ev0n?vbwldxx,vdgv&!r9gsEr9^x
rBP,[~t?]Au)[Au)]AuPve[AuPve]v0z[sU[v0z[sU]v0z[u[[v0z[u[]v0z[odve[v0z[odve]v0z[w5[v0z[w5]v0z[zd[v0z[zd]v0q>oMn3sU[v0q>
oMn3sU]v0q>oMn3u[[v0q>oMn3u[]v0q>oMn3odve[v0q>oMn3odve]v0q>oMn3w5[v0q>oMn3w5]v0q>oMn3zd[v0q>oMn3zd]Eu)[Eu)]qpodve[qpod
ve]qpw5[qpw5]qpz[sU[qpz[sU]qpz[u[[qpz[u[]qpz[odve[qpz[odve]qpz[w5[qpz[w5]qpz[zd[qpz[zd]IuPve[IuPve]Iu)[Iu)]Ou)[Ou)^Mod
ve^Lodve^Mz[sU^Lz[sU^Mz[u[^Lz[u[^Mz[odve^Lz[odve^Mz[w5^Lz[w5^Mz[zd^Lz[zd^MxvoksU^LxvoksU^Mxvoku[^Lxvoku[^Mxvokodve^Lxv
okodve^Mxvokw5^Lxvokw5^Mxvokzd^Lxvokzd]Uu)[Uu)_Bodve^yodve_BxvoksU^yxvoksU_Bxvoku[^yxvoku[_Bxvokodve^yxvokodve_Bxvokw5
^yxvokw5_Bxvokzd^yxvokzd]Y:u[[Y:u[]Yu)[Yu)]YuPve[YuPve]Y:w5[Y:w5]M~M-Wm;tVp_[M~M-Wm;tVp_]M~M-Wm;tVV[M~M-Wm;tVV]Y:nSnt[
Y:nSnta|9^$!x::sVfsMqGt>x6t=x6t>_wt=_wt>wzft=wz]!x::sVfsMqGt>x6t=x6t>_wt=_wt>wzft=wz[E_G:sVfsMqGt>x6t=x6t>_wt=tsAw4s*m
SE_G:sVfsMqGt>x6t=x6t>_wt=tsAw4^_mSE?:sVfsMqGt>x6t=x6t>_wt=_wt>wzft=wz]E?:sVfsMqGt>x6t=x6t>_wt=_wt>wzft=wz[^(:sVfsMqGt
>x6t=x6t>_wt=_wt>wzft=wz]^(:sVfsMqGt>x6t=x6t>_wt=_wt>wzft=wz[mUn&qS:sVfsMqGt>x6t=x6t>_wt=tsAw4s*mSmUn&qS:sVfsMqGt>x6t=
x6t>_wt=tsAw4^_mS^,:sVfsMqGt>x6t=x6t>_wt=_wt>wzft=wz_Vs*mS^,:sMAgoPn3rbAhoPtsAhoPwz[wDp4:sVfsMqGt>x6t=x6t>_wt=_wt>wzft
=wz]wDp4:sVfsMqGt>x6t=x6t>_wt=_wt>wzft=wz[!x::x6ts<E_G:x6ts<E?:x6ts<^(:x6ts<mUn&qS:x6ts<^,:x6ts<wDp4:x6ts<tj!x::t>^1t=
^1t>rbq=^1t=rbq=^1t>tsq=^1t=tsq=^1t>wzok^1t=wzokw^tP]!x::t>zDu_t=zDu_t>rbq=zDu_t=rbq=zDu_t>tsq=zDu_t=tsq=zDu_t>wzokzDu
_t=wzokzDtP[E?:t>^1t=^1t>rbq=^1t=rbq=^1t>tsq=^1t=tsq=^1t>wzok^1t=wzokw^tP]E?:t>zDu_t=zDu_t>rbq=zDu_t=rbq=zDu_t>tsq=zDu
_t=tsq=zDu_t>wzokzDu_t=wzokzDtP[wDp4:t>^1t=^1t>rbq=^1t=rbq=^1t>tsq=^1t=tsq=^1t>wzok^1t=wzokw^tP]wDp4:t>zDu_t=zDu_t>rbq
=zDu_t=rbq=zDu_t>tsq=zDu_t=tsq=zDu_t>wzokzDu_t=wzokzDtP[!x::VmjnLYfs?frbq=^1^1tsq=^1oPwzgn3w^tP]!x::VmjnLYfs?fx6_wzDtP
_0mD&m:bzDtPbsVbwzbm.!Y~<q=wz[E?:rbq=^1^1tsq=^1oPwzgn3w^tP]E_G:x6ts<E?:x6_wzDtPbt>rb<ts<wz[^(:VmjnLYfs?fm.!Y~<q=rbAh_w
tjwzfm.!Y~<q=wz]^(:VmjnLYfs?fx6tsuLoPt=rb<ts<wz[^,:VmjnLYfs?fm.!Y~<q=rbAhts<RnU:sVfsM<^,:wzfm.!Y~<q=wz]^,:VmjnLYfs?fx6
ts<RnU:sMuLm.!Y~<q=rb<tsuLrbAw4^_mSwDp4:rbq=^1^1tsq=^1oPwzgn3w^tP]mUn&qS:x6ts<wDp4:x6_wzDtPbtsuLsMAaoPp7yhapNyham9v_nl
nenkv_nlnen~popM-nkv_nlneoZ-pM-nkv_nlneo|-pM-nkv_nlneFmCUmQv_nlnew%v_nlne$(v_nlnem(nCv_nlnerTOmBse$v_nlvZ&-vtm2cvttvv(
n9-n?qxawZn9-n=qxazupAm9|]&-q>sPn8zupAm9_UmCyNySap7ySapNySavSogaoXqbpptEtMppnerku3m,^5ap+u3m,^5o3mim,oU-9 ^5bsE-q!o*-
9 ^5z+oX^5_<oX^5aoXoU-9 ^5bsE-q!o*-9 ^5anusXtvoXnusXtvBnwmOao(~FnHnwmOao+opm0ngtvpiopm0ngtvvSm;npp(oizupAm9pt o&qzpppu
E|vap!pTr.ug|vav(n9-n?nkp*n.miawZn9-n=nkp*n.mianJP m.mQtDnIoOTmiav(n9-n?o>m|n2awZn9-n=o>m|n2|]m?oh_)q>sPv_nlnepMnToTm0
r,Tp7qKqQPm|m&aoXPm|m&ayWPm|m&asyPm|m&boXPm|m&byWPm|m&ps%n+o3mim,v(q4vn^5bwZq4vn^5amQFm2x=;qxaoX_%q)axmmqBnNao>ppnex]m
Mne^OnlmF mMnetc^B(ydna o&qzvaMazupAm9nHnwmO_UmjtD,|gark~b:m_oTLap+~b:m_oTLaoX_!az:na _%q)a_%na _!amMqSI*p)n+asyPoTCm>
qQraq1BnwmObpGBnwmOatM^0q!o*,nkn&vgpsuv;m<apivumc!m~meonmfYpsmUMm2CImIxknhnMo3WmwqrySauTx]mMneFtNw%oyap^opw%ayh~ym,Pm|
m&at4opw%as>opw%apiopw%at4opqxa|nC~7n[Cvgaqbt4nDoirIscuDm^n:!v_nlneWmDmEvttvFmwtD maPv)pta(qLmhBm,pUSnx|vbw=aoPv(n9-n?
oQnGawZn9-n=oQnG_UnCr>n<qSqroQnGanJP m.mQtDmIoQnGa(t5BmV,o0m&n[C,WmaPmianlmMzQnG,o0m&n[C,WmaPmia(t5BqUzXp]mvzZmamianlm
MVoO;zXp]mvzZmami|]ptmIpbmVzZmani|]mU(mIpbmVzZmanio3wGqjx$rTObu|^$Iw4oZb^PmbzLnxVm9bqJbxUtEw=r,xknhbz~r,n=w7vyn?w7vyu|
^$No3nKqjx$rTOb&tEutbn~tEoZb^PmbzLnxVm9bqJbxUtEw=r,xknhbz~r,n=w7vyn?w7oioPu|xZqjvBT^$olq0s3XrCnLWolHq_t+xIu2ePrCwmpqwh
EUmq-s+Rx=YnMpsvgnMpstGZEImqqQFRm9nL|(ucCqQnpmjqQyBLqQyCImjqQPniE?qQ~yEEqQW&qQr=W,mgQm;qQD_[qQEUmqqQtePqQrOGm|KqQDmjnL
m^qQGm2MpCPm9y_qQPniOqQxj%*IqQAnhTzPqQHr|VNIAnMpsEm.qQnpVz0n9m!pvm:nMo3Pni^^nSqQz1ozqQ(m.pC~yEEqQTm!tetVnpmjqQu1wqoyqQ
zOoOqQRnKm0qQL%IqQBmVCO(nMo3mUnMpqF.Cx%n=uSpyoWxGuSpy|4t|qbvr~LmboSmJqbvr~Lb*n:^4rtoWmR^4rtoWy%rtoWxGrt|4tg~LmR^4tg~Lb
*n:^4tg~Lbx+|4t4rl|4x=uvn8r1n7oq=v>oCn*m,z]S|gy%n?rt|4x=uvmi,pfp%oKYCmacm<W%mEq4pxbq!pu|!pm~LboXq*qc;~LbsHUmVYo;byWx]n
DbWse;Bm|DG;|4q1rt~Lbt|ru,|!pm~LbpGwyoFvhvyq1wyoFvhvyn=m?r*xGm?|yvuvepqF.nlCwAmJoJangDmQo?mesg$punKp?Cqzru-r>tGm$uHCau
F;Cm;mhnhpsmXz0ppEo;ps%;oJpsngnnmwAaEU_?nW&r>yHo3C~ys|uF;F|PRm9mgmVo3CvBTpaGn6HzS-mSs*Haru-r>tGm$uHHat_m$nW&r>*nmsRpis
:o3Cx$s*IzS-mSs*Io3Cx$s*Ln0LaLnHrQs&ru-r>tGm$uHN|]n5m2OnMo3wAmEw)mDDn8^9Yp+o3Cx$s*Paru-r>tGm$uHv2Qo3Cx$s*RzS-mSs*Raru-
r>tGm$uHRu:mQqjvBna xdnewXP&SneydVn&;qxanG|e&EqQ^ot[qxqQm[mhCs|ru-r>tGm$uHZawArfqQOHMqQuTOHMqQo!-mSs*Zau^|9^$^(aKm;V(q
QnNr>ttnMo3Cx$s*BzS-mSs*CanimMm^uGo;o3CvBTpaEn6=Fau^s*Fo3Cx$s*Mn0Oar2s&Bn+s&yy_9s&numOs&(mvpt,Om!Cnetps*QapSv|Im0qQru-
r>tGm$paPndGn(m^n6Gn(Mq7IbN-%Y,n5m^naasZo*,~iuHGroaq!o*,~iuHLasZo*,~iuHyeru-r>tGm$ mV!n&uHDy*Dd>nRJar_pMz2ppneu^n(~NnV
apMqQsPmMnim;SotBasZo*paFo3o4y6,n(%mV*,Om!CneVnwGq|FmjtD &puowt7uZ$o[t7dsq^]pisqDp1o+y,v6piy,$p1p^y,$p1t4y,$p1&puzL$rr
nE,zL$p1o+ofv6p^xwp1s>xwSsIp7xwoiFmjtDohn5v! &nett*ohn5m2mIuW=|?y8Vp%_fpLy,p;co+qOrroMqOco+qKo3mptt*ohn5m2mI^f>Tr4y8Vr
4_frxy,p;do+yos>yoo+qKatt*ohn5m2mIo+q9n3C^;rroMqKpYp7qKcsyo+qOau|^$syCatt*ohn5m2!,zL t.;mvrrFz2|;LnvmvdqKco+^VqKaVnwGq
|FmjtD rTobsqDoiu^q[r[n~ne+wQq1o,sBo,^Ur&o,n=n?o,rHsso,u1^btLvEm?o3_LtLqYmJ_qm?u=nepGm?u=nem%z)SmBo9;o,m=z)SmBo9;_qpir
No,sBpirN|6pirNo,r&pirN_qqgs%apGqgs%aq1rtzJy=sBrtzJy=pGrtzJy=r&rtzJy=rHssqgBnzneq1qgodapGqgodaq1qgnSntapGqgnSntz+p+mBo
9;m?cm?u=ner&ZmCZpT o,sBqgxJ m%z)udm=z)oir&qgxJ m%z)udm=z)oipGqg_&oAoFvhoir&qg_&oAm%z)oi*n:^4p<,nkn&n*m,o,C^4p<,nkn&n*
m,o,u1^brtsgxxy=q1rtn9nHq|sRpGrtn9y=*n:^4v*uIm,o,C^4v*uIm,_qwym<vhudoFvhoisBwym=z)udm%z)oipGwym<vhudoFvhoir&wym=z)udm%
z)oipGrtsRq1o,sBrtq1p|r&_qrtsRpGtLq,Ix1m?oisBq,Ix1m?oipGq,Ix1m?oir&q,Ix1m?oiq1uSpysRpGuSuOpGuSpysRq1uSuOq1oXm?u=nen=n?
oXm?u=nepGoXm?u=neq1oXo,sBoX|6oXo,r&oXo,n=n?oXo,rHssoXo,u1^boXtLvEoXm?o3_LoXtLqYmJoX_qyW|6yWo,m%z)S,m_mCGm,o,m=z)S,m_m
CGm,o,sBqgruzgr&qgruzgq1ySmeo,sBySme|6ySmeo,r&ySme_qrtn9y=pGrtn9y=m%z)SrUo,m<vhSrUo,m=z)SrUo,oFvhSrUo,m<vhSrUrtzJrQdpy
rnn2r>!fumvSoggx~coXm?epyrnn2r>!am=z)SrUrtzJmBmfau1^brtn9nWqmm2o3_Lrtn9nWqmtvrHoFrUo,n?m?y(r1ar&rtq1p|sBo,p^pGm?oiq1qg
q*zgpGqgq*zgn=n?qgq*zgq1qgoXq*zgpGqgoXq*zgn=n?qgoXq*zgq1v*re|6v*reo,n=n?v*reo,mn mfpsmtm0MmXap!mMmIm.|Tm2^F!a$m2;wRm:t
TbmYEmcv;wRm:qznkPp;,n+a(pfMmX|]qwmTay8MyIoJav;pCy8MyIoJo3mpy8MyIoJps&?(mcAmc_iBtvmYEmcv;u9?s$Amc_iBm2o3mpu9?(mcAmc_iB
tv_bp|r_oJ|]-%nvr_wiCTmRntmqwiCTmbn5m^naaxknhqQxkUnfmD-w=qQopw=a~?mh&,|go3^Bxknhavu wJatgwJu$nwm0mJwJo3_pmqw$psnK;mqOq
zoZrpmqOqzr_PmDnamIn9a(n$mVyen?nNs|nNs|m&nzUx1nNm0o3pAm2_nnNs|~?n2oimYEmcv;~?n2ap!!m0L n9av;p!!m0L n9a~C_nnVbmDaxmqytD
a~8uO~,GzPaoX~,GzPayW~,GzPps&n9m! ~,GzPo3m!pS;~,GzPaq8Ln5;~,GzPps^4~,GzPmR&n9m! ~,GzPa*n:^4u9n9m! ~,GzPa$m2Emnnep*x)nh
nemjmMOar_PmDnaaopxknhawRCnioiozmUn+m|C r_PmDnaaHmUOuDn:axewJasyw5auTmTZY,o3(EmBAnErAmQArpr_wiCqzv;w5axkpmw5anzo0Pn9n:
mfnvy1v;nzo0Pn9n:mfnvy1mar_rF_~m;nvr(bx(mJv;nlrOmfnvy1r=mGoAmar_rF_~m;nvNtKnlrOmfnvy1!o_y!y1v;!o_y!y1!o_y!rEtKy1yWw5am
f y1v:zQwWmJn9aozmUn+m|Cmfnvv:zQwWmJn9am.|Tm2x=;p*mrxhamar_nlmgmc~)npMmVaozmUn+m|Cmfnvy1mar_rF_~m;nvr( tK~)Im^G;oJaIm^
G;p|tKmar_rF_~m;nvr(psvg vRoivRmcCvgatgs$r(br(psmDwXP&Dmcn9animMm^nGoiv:nNvpn9o3Tq|vRoi~t? y1r(nHnvn2n$Inaam&nzUx1Byez
:namey1v;y1sem9n:mIn9av;sem9n:mIn9o3n[CTLnvv:zQwWmJn9at;vktKy1~VtKy1t;vksRy1~VsRy1xPnH~zv;y1y5nH~zv;y1s]nL xPby5ap*mrx
hav;v:zQwWmJn9bxPby5^rmGoAxPohtKr(by5ohtKy1t;vktKv:zQwWmJn9a~VtKv:zQwWmJn9^rmGoAxPohtKv:zQwWmJn9by5ohtKv:zQwWmJn9at;vk
tKy5a~VtKxP^rmGoAxPohtKy5by5ohtKxPu:mQrfn2So3UCrfo*oiPmQrfn2mctKr(o3UCrfo*mctKr(u:mQrfn2mctKv:zQwWmJn9o3UCrfo*mctKv:zQ
wWmJn9amYEmcv;Pw)o*=rSCrfo*o3nKzhoJo3wGzhoJav;AxZzhoJn7wGzhoJo3nKzhp|tKr(o3wGzhp|tKy1r=mGoAAxZzhoJohtKrETm]SwGzhoJohtK
r(o3nKzhoJ:v;r(o3wGzhoJ:v;y1MnwmM_,z.|qv)ptb~8&o3_pIm^G;oJbmDmC(mIoJbIm^G;p|tKr(bmDmC(mIp|tKr(mRmamRm<ay0w=bxknhbpUvy~
?mh&,|gbopwJbtgwJbvu wJbvRvyySo3oqmew=bxknhbpUvyopwJ_<yMz+yMassyMarHyManzydnazT~toiTtGnemnCniayWx~ n?sZzxs|oXx~ oXn?sZ
zxs|mYEmcv;r_nEav;TtGnemYEmcv;mnCner=p4nOoXx~ oXn?sZzxs|PmQrfn2mcomoAmQmTnao3UCrfo*mcomoAmQmTnaau1M!xZGmqrHoJps&?(mcAm
cu1M!xZGmqm<au1M!xZGmqrHp|tKr(ps&?(mcAmcu1M!xZGmqrHtKy1mDmC(mIoJaIm^G;oJ~%nwmMMmaaHm2^^mM*nW&JuBoO;m^n[Xaxms)AnGaXmD|]
nVau1_<nNm0:uEbpx|]-%nv~C_nnVcmDbxmqytDb~8uOuomEwJaopwJo3Tq|wJa~?mhpypUoiBmLmMnen=u1MmIpSnj,nkIm.w)mJr_wiCqzn?u1MmIpSn
j,nkIm.w)mJr_wiCqzrk,nkIm.w)mJr_wiCqzp+,nkIm.w)mJr_wiCqzsyxevRoi~Tnv~C_nmDcnVaruxZ_,mbwG_,bxmqytDb~8uOPmVnLmnKarEn3p!!
m0L n9axPz&ay5z&am[YnTUnL xPcy5at;vkr( tKy5a~Vr( tKxPar( tKxPdy5t*mQrfn2Sn>UCrfo*oimYEmcv;Pw)o*;tKvRn7UCrfmetKvRa_ty<I
m^G;p|tKrETm]mDmC(mIp|tKr(o3_pIm^G;p|mDohOmJr(bmDmC(mIp|mDohOmJy1xPnH~zv;v:zQwWmJn9ay5nH~zv;v:zQwWmJn9u:mQrfn2mcx(mJv;
v:zQwWmJn9o3UCrfo*mcx(mJv;v:zQwWmJn9av;u1M!xZGmqrHoJamYEmcv;u9?s$Amcu1M!xZGmqm<av;u1M!xZGmqrHp|tKy1mYEmcv;u9?s$Amcu1M!
xZGmqrHtKvRaqbm;npp(oiMsevrvSm;npp(oirHn?|Hm;npp(oissn?|Hm;npp(oiy8MyIoJ:t|qvqc>x~ ^>_bp|qvzg^_y8MyIoJ:x~ ^>_bp|qvzgy8
MyIoJqE~Eo>ogo3mpy8MyIoJ:o>ogay8MyIoJ:|Idpiqvqcnips&?~1:t|qvqc=x~ ^>_bp|qvzg^_u9?~1:x~ ^>_bp|qvzgu9?~1:o>ogo3mpu9?~1:o
>ogaZohx,nanHpT _iBm2moIParcm&mFqQEo1n[C o,nUnhnerHypssypr_p?CmMnEa~NrnCmMnErAo9nvppnen=rfoTmi_<rfoTmiz+zF_<zFays n?C^
Iy%C^Ia_Hn?C^Iy%C^Iasy_tnMo3_pnSZvYneuEo3EGMmXo3ECnjanG|eo+w)mDDtvnJmhna (wqr<aVnBWnu?_KPmTC;p|xmniTqQu^_tqQWoOnLanUm!
GmTzy_Hn=_&m2xG_&tvys n=_&m2xG_&tv_Hvb~,GzPays vb~,GzP_Um>No3^^s|rHm?z(p*mrEp7pivSogointna oKyem2nz;sg~)p+aX s$nnw)Tvn
^waoKYmln1av(q4vnvIawZq4vnvIam2nz;sg~)m%qzBm9Zm9;wlpsYppDm|CmVyemf %Oom-r_nPm0o3o0m&Tr|an9TmIRmw_*am.Mm9mhpymDmC(ps&_n
Tmam2o3nSPneCwAmFBmDneCwAmFS(KamaL|(mwtD!o; I-p*n(n>m_ItVyhdm_upvRe~?n2ev>esoTer1dr1,mMm0esoTn>|grQpFAm$S|grQdyh,|gez]
S|gexPey5dq1V*>pGV*>m_upq1m?epGm?dwLz]S|gdssyM |ItIm;?,mMm0dm_upoFnW%n+v.m;uessyM so|YsBV*>m_upsBm?drHyM o>ogtIm;,mMm0
dm_upm<nW%n+v.m;drHyM so|Yr&V*>m_upr&m?dm_w$;|ItIm;? |IduomE|IdsomJ|IdwL|Idm<,nU;so|Ym_w$;yhdr1uXdm_upCvgdrHyM sNsp~
t xOn>Tq|sNspsomJsNspwLsNspoF,nUpumMm0drk,nUpumMm0dxesNsp~VxOriu5rQtIm; qF~sZoT~szxm,qF~sSnkn&vg |Idm_upv;vRez:nadoFnW
%^BqF~sm<nW%^BqF~stSueR~_wDG<!x: |IdE_G |Id^( |IdwDGnn|Id!x:av;q]m$oy_<nNm0:r&ZmCZpT o,moOnwDm2mew2^wu$m;Ls&qbppqps.nD
a(ydnao;pso~(u!pmx]ppEs&m.qjo~(u!pmx]ppEs&nkx:mhSo;psmtOmhnao;rAo2puoqqptdz0qbppnem9mFs&v^AmMoMoKYs&mgLMs&y0vSog:_tnLb
ynoFu$mqKm9y>:u1$qYmJo,mwmYs&v[OS?Bm0s&zuSmFpgSs&v*-oeUmV-_*P~zH-p;rno;bL-p;rns&PnzmhnE|)tB-oF-_*Ppcs&PnzmhnE|)tB-m<-_
*Ppcs&m.w)mJs+RmXo; mv uto3oJmr%poFmwtDs&maL|(mwtD!o; yhan2CsF!ug|v oKYs&PmQqLOpmPpTner=XmJPpTneP|>T,pfm9o;psm0%,pfm9s
&n=w7mcuuodq^q&m9mh_]tNod_<w7mcuuodq^q&m9mh_]tNodarky<Bpz^Bz6nWqmm2d|Sm9mhwCxLnWqmtvp+y<Bpz^Bz6nWqmm2d|Sm9mhwCxLnWqmtv
n=s+sSnHpz^Buuodp8pZPnBC>tNodpsm!sSnHpz^B|Sm9mhuOn?s+sSnHpz^Buuodp8pZPnBC>tNoda~,GRmI|Sm9mhuOvSvr|Sm9mhuOuun=tKtNn?s+s
StWugtDxGtKtNn=s+sStWugtDo3n5m^na p<bysap<~bays~bdsRp<~bamjm.s)o; ysz+qb^w ppnen?qb^w ppneqv,CpCpppo1cpppo3cpppo7cpppo
9aD^Fr>r|o; siqbn3_H_Fys p+esvy>doFokqv:r1dm<okqv:r1dq*:pxdoFokqv:pxdm<okqv:pxdqbnVmBo9>oFokqvmHmBo9>m<okqvmHmBo9>oFok
qvdm<okqvdqbn3_Hrkfys rko3_pn_OqzmQsZs&Ep?CTs&qbvr|Sm9mhuOm&n[CmIxMbt|o>,oSTmboSmJsRxxbt|sRut,oStTbut,oSTmcsRxxdvto*bT
yEEm&bnG^oqym&_1mXnzEm&a|;rpGmqom_Unhne_Hw7oiys w7oip<nWm!sSy4ysnWm!sSy4_Hnjn9m:pu_|y4ys njn9m:pu_|tWu6Tp=~uIn5u$m9Zm9
;wl:r1o3^omZTNnioiFt.NnioinlnWm!RmXaEo1n[CmIxmqytDan2CsFmIwRP&mXs&rawZq4oXpxbv(q4oXpxbm<-q4oXpxboF-q4oXpxbwZq4oXpx:x~b
v(q4oXpx:x~bwZq4px:oXx~a!%MnWq5o3p<WoOnLamMMm2nWq5anUm!GmTo?:FoUmi,nVzU|Bv(q4pxcwZq4pxcm<-q4pxcoF-q4pxaoXx~zSy<mnslmRn
*m,mn w)mDDu:mLm2o;b&-oJFo;b&o;mbm0yxs&|Wydm[ En|o;o3o4y6ohtBn7T%mJp|o=mienGXnm_bp|nGq&wmucSMm:mh_]m9m_nCYmsm$NmLm0DG=
Bm;Lr6Am$SPnl=vS?x(mTnacvrtro*cqb?x(mTnacmv tro*oC%m|pT;mQsZtUu,mJ_*dw~nu? ppK niCma=n2Vn&;Co~mqL &q0mrs3n~q0oZn4Ep4mM
oMAm$NmLm0DGx2^|nLqSOpmsem0c_bp|TucSMm:mh&yQoC_am;c_bp|rIn7nKzxTpc=niCma=nPm0ug|vpXmqm<ug|vcw)mDDug|vcmwmVug|vn7Pnl=n2
mOneBxEKs&w2^wo3o4y6|5Wpp=n2mO;mv r[SnKzxTpc;mv utao8~oy|Rv?mRm(nCbmnKbuTmnKbBm;mJx(m$m0bBmL mMtEBucnLnH*K se^FnPCptbn
(wAmJoJ|om$bySmRnhTmUoAnlCwAmJNpJm2boXz]S|gao8zty0q[uWtEyD|?y8Vp%_fpLsqnGp%oZnGp%y,nGp%o|^zsImXEp%of^zr+EnGp%u%aw7Zmeq
[uWtEyD|?y8Vp%_fpLsqnGp%oZnGp%y,nGp%o|^zsImXEp%of^zr+EnGp%u%aq[o+w6bpiw6bp^w6bt4w6bs>w6mbzL w6nxVp7w6bw>w6bxU;w6ayDTp7
w6by8Vp7w6b_foMw6bsqnGp7w6boZnGp7w6by,nGp7w6mbzLnGp7w6nxVmXEp7w6bofnGp7w6bxUEnGp7w6bmrmXnvw6aw7Zmeu|^$ol^8~r|_Fsweu*p:
~xt+xIu2||P_Xu;rCwm_Y~!|dz$wnay0u|^Yol^8~r|_Fsweu*p:~xt+xIu2||P_Xu;rCwm_Y~!|dz$wny*mSol^8~r|_Fsweu*p:~xt+xIu2||P_Xu;rC
wm_Y~!|dz$wnbsWO^rp4mMoMy0yDy8Vr4_frxsqnGr4oZnGr4y,nGr4o|^zuYmXEr4of^zuZEnGr4u%aoXy0q[^fvZu(z1^rp4mMoMy0sWOa^w^;mjWmim
csiqvcrJqvcsiq*crJq*csiyWnutVqvcrJyWnutVqvcsiyWnutVq*crJyWnutVq*csiyh~ym,nutVqvcrJyh~ym,nutVqvcsiyh~ym,nutVq*crJyh~ym,
nutVq*csioFokm=nmsssi_Ar]drJ_A_IrJoFokm=nmsioFokm%nmsssi~Ar]drJ~A_IrJoFokm%nmsim<okm=nmrHsi_Ar]drJ_A_IrJm<okm=nmsim<ok
m%nmrHsi~Ar]drJ~A_IrJm<okm%nmsiqbn3m=nmqbsi_Ar]crHrJ_Ass_IssrJ_ArH_IqbrJ_A_Isssi_ArHr]crHsi_Assr]crJqbn3m=nmsiqbn3m%nm
qbsi~Ar]crHrJ~Ass_IssrJ~ArH_IqbrJ~A_Isssi~ArHr]crHsi~Assr]crJqbn3m%nmsioFokqvcn=rJ_Ass_In?rJ~Ass_Isssin3vSr]drJn3vS_In
?si~Assr]cn=si_Assr]crJoFokqvcsim<okqvcn=rJ_ArH_In?rJ~ArH_IrHsin3vSr]drJn3vS_In?si~ArHr]cn=si_ArHr]crJm<okqvcsiqbn3qvc
n=rJ_Aqb_In?rJ~Aqb_Iqbsin3vSr]crHrJn3ssvS_IssrJn3rHvS_IqbrJn3vS_In=rHrJ_Ass_In?rHrJ~Ass_In=ssrJ_ArH_In?ssrJ~ArH_Isssin
3rHvSr]crHsin3ssvSr]cn?si~Aqbr]cn=si_Aqbr]crJqbn3qvcsioXnutVqvcrJoXnutVqvcsioXnutVq*crJoXnutVq*coXqvdq*coFu3m,_ArudoXn
3p+x8coXoFokm=nmoFu3m,~ArudoXn3rkx8coXoFokm%nmm<u3m,_ArudoXn3p+x8coXm<okm=nmm<u3m,~ArudoXn3rkx8coXm<okm%nmq*u3m,_Arudo
Xn3p+x8coXqbn3m=nmq*u3m,~ArudoXn3rkx8coXqbn3m%nmoFu3m,n3vSrudoXn3qvx8coXoFokqvcm<u3m,n3vSrudoXn3qvx8coXm<okqvv5u3m,n3v
SrudoXn3qvx8coXqbn3qvcsiuE oFokp+grkem<okrkgp+d|Huun?sgtNrkfyTtNp+evxdrkdm<dp+doFcrJrkdm<dp+doFcsin=n3rJp+dm<okrJoFcrJ
n=n3sip+dm<oksioFauupeyQatNo+xwyQcvQyQbp^xwmc^?bpeyQbs>xwmc^?bp^vQmc^?nxVp7xwmc^?au+yQark,owp7xwmc^?bp^vQmc^?bs>xwmc^?
bpeyQbp^xwmc^?bo+vQyQcxwyQ_<peyQaqATt0n2arIt0n2aDnyt0n2auuo+xwyQ_<o+xwyQayhucmJtNm%nmp+buurkdn3tNn=n3tN_Fp+euun?n3tNrk
im=nmp+dn3tNrkgn3tNp+zS_KWo2puoq=ummqomme_&m2SoC&?(n8o!u<_KSoqqpvSnPp_cqbnPp_cmDpwG&mICmqSmooOnL nPp_cuuyTtNn?nPp_dn?s
gtNn=nPp_c|HCmqSmooOnL nPp_zSu<_KWo2pumk_Kraw)TnNm0u6w)TnNs|raqbw)TnNm0u6qbw)TnNs|rap!!m0nSquu6p!!m0nSquzUm<-q4pxu6m<-
q4pxzUm<-o&Tmipapxu6m<-o&TmipapxzUwZq4pxu6wZq4pxzUwZo&Tmipapxu6wZo&TmipapxzUwZq4o&mFu6wZq4o&mFzUoF-q4pxu6oF-q4pxzUoF-o
&Tmipapxu6oF-o&TmipapxzUv(q4pxu6v(q4pxzUv(o&Tmipapxu6v(o&TmipapxzUv(q4o&mFu6v(q4o&mFzUv>u6v>oC&?(n8o!pav>aw8mgYnenSZvY
ne|ar1a|nr1ar1:qbnPp_u$tBqyYneo!uIs|r1:n=zBcn?zBctNzBcuuzBdn?yhucmJo!cmfnH~zuun=yhucmJo!z+zBuIs|n?zBuIs|(qI;BnwmOb|ar1
auuvb(qIErUr1atNvb(qIErUr1auun=yhucmJoevpuExGyhucmJoevpuEatNn?yhucmJoevpuEy%yhucmJoevpuEauupeuIs|tNpeuIs|ratNn?pxcn=px
buun=pxcn?pxu6BnwmOo3oqqpn=zBcn?zBcuun=|HzBctNn?|HzBrAo2puoqqpqbBzcCp3pptEm<-q4pxz&am<-q4px:n=zBdn?zBa^2r1rAo2puoqqpuu
n=yhuc|YtNn=yhucTen?yhuc|Yuun?yhucTmRn*m0:uun=yhuc|YtNn=yhucTen?yhuc|Yuun?yhucqzuun=pxxGpxatNn=pxu6rI_KrarI_K|arIu<_Kr
arIu<_KtNn?pxzS,mw:mjYoiCnStuapJmQtFo3NmLzOpsmUn+zSuXrAo2Ex9qATNmia$x]SnjMo3mwanzCsQn8pvn2awfn8pvn2ps&JmwtDantnJmhnazU
nG|e&ne|anG|e&neBmfOmJmln)sv|om$^Eo3!mMmQapJmQtF:mjs$D^IoinUmJp*m[pTneWo2punUGo%PnBCneo!,nUGo%PnBCnemon(mqm$asytpFLmDm
Iv9mJBnwmOzUn=q4q$xGq4q$u6n=q4q$brHq4q$xGq4q$bssq4q$o3KtBokvxB&nips~pnaqQmjm.OnlmMnEqQBtSm(Zn1nMpsngUrfnha*pkamDpwmYXn
W~7nLo%RnUpsmqu.p|LmDmj(=Jm2nhAm0Mo3T%okpfqjmX_U%mhs&Am.t0KmMat2MoAnV,Im$s|rnnlEs&Ys$YnNaTRmCv%y6 o]p%mTK=nPmQc$x]rK(^
]pOmFocwA?(q^%$rA|i p|DrBm^u6Fm>Nn8pSEmbyBn8s2o!,yBn8s2Wo2pumw:mjYoiFnCy!vQ_luOmTy!vQ_luOMm2s+yetrm^m0qQ|;$am^m0qQJm<I
mFo3oOqtam!uf^rPTmwneoaUn9a%nBoi?m!nhaGnkovps_atvm0OaVnCx*anpBmjo3CmDs:nho3pTmVT%Inhpsmam|_&aAoqInhu:m:Cniu6q]~XmicyOp
%mqnrr6wkntqBxlnmq,WNzS|o~XmicyOp%mqnrr6wkntqBxlnmq,WNmbq,n2,UmVu6v9T,UmVbv>,UmVzSnWLnK,UmVrAo2puq,n2,UmVzUv9T,UmVbv>,
UmVu6CLnK,UmVanUTv_wloivQohOnGaxwohOnGap*n(mexwohOnGSmbzLnGt7ohOnGois]mhC|(t.r,NoOm!!nMmbrBPqQqYT,Ym|nlnW~7txT,Ym|nlnW
~7~8qImIw)YCLmis&w)YCLmio;y6 p;Ppo1yumTSn:So[xVpowgPmTSn:So[xVpo3yumTSn:So[xVpo4yumTSn:So[xVpo5yumTSn:So[xVpo6yumTSn:S
o[xVpo7yumTSn:Ss9m9m2p]m^mFI!oira~8qImIw)YCLmis&w)YCm0mEy~m2s&p!mMmfY-w)YCm0mEy~m2s&pMzOyIy~m2qQW|iCm(nCs&m.;pSpo1bpSp
o2bpSpo3bpSpo4bpSpo5bpSpo6u6r1qEp+dpinDoio!y>mHrUopp+dutrUnDoiv[Oquy6yvnNwV(apbv%y6 t!yvnNcm0o?oAY(rPnNct!yv(u6y9GzUy9
Gat2MoAn3s:m$a*nLmDpst1o*,WmDDSo3?|T p|AniCUmTs:nho3x)m0oiAm0MBn&_UoUtvoz%o3?|T p|Hm2m&oioOmUs&pnm!-n2-Lm:a_*ppo*yfEx9
p^ppEmcu9m[Gn8p+dm%qzW%NmiqQxfq8L?ozqQrumEtrm^m0r,m^m0qQxmq5metrm^m,n3m^m0qQm^m,n3trm^m0r,svr9nMdn3m^m,n3trm^m0qQqbm^m
0vlqQvSm^m0vlqQrIrUr1bo!y>mbmkrUr1~%%m|Aozs&m.VmDrfs&mwM%m|mep!TNm2moIPo;psoJn$_Umwm2mIqt^rUmFpsm2niu:!mToiJmwOanES?an
LnCuOo!_lpynpLmGo3wRmMm0o3nkm:wRmMs|m_(CmwXo3nim_IyhmjnGo3y|Cm2nHmfu$nzEBmfo3oqmeoKYu6DmjuBHTmczOqBmizUDmjuBHTmczOqBmi
o3NmLzOmH_*,NmLo3mwnHEH(mECnStuamj(zS,NmLzOa$x]nWnSUmEn3mj(asZo*yfpunUGo%PnBrfbo!,nUGo%PnBCne|auomE(_Kvxn8xEniam.Sqwm0
mEtcantt5UnLnhas:m$ps%,npDmiamgLm&TmHrUC~7y0vxn8xEnipsm((oiNobmXr|axA;w|pOnvrkmBAnv^oFnPCzUut-pOnvrkmBAnv^oFnPCu6ut-pO
nvrkmBAnv^oFnPCzUn=xE;Mm2Gne|an=xE;Mm2GneDm|nE,oUqQr]rUoF-q4pxz+Cy?mXr|o3oqo*,!mMmQ_Umfn8|H(rUwL(ui_Ko!qDtGm$awXn[CnOn
=mXr|qicmXr|qPanzTqSmUn&!o;y6 m!ufar]y>u=;n3wuoWu:mXAquawZpWmexmmTCmePmXAquav(pWmexmmTCmePmXAquauTPmXAquzSnWmqu.&,t5m;
Damo(n9zZ|>nenLm!nLpsnzTs|Hm:njn&,mVneoz%mHrmmJHnKbumpWm0oiMmao;y6 qAq9neo_mw?(apJmQtF pyGmqoman_mw?(ay9qrs$nUs|Fm2r|o
3AoTmloOo3_poZnWqmm2So3tetvn&puotnGa~Ns~BmfaTmXaJma*ni;B*Ks&o=r>o+u[Yn1s&FUm;yun5PpsrH&ui_K|ay9G:vSs.o!n<vBneo!,sOn+Y,
Cm:SmDoiz6nHmTn2,Cm:SmDoio!,Cm:SmDoixLnHmTn2,Cm:SmDoiWo2puCm:SmDvyr]|om$oyanG|eo+nSCptqQTma;Dm|nEaAnCt_nem9Vm;ntne~fw8
TqfaVn&njnvpWrARmVn8pWatNn?Px=oTu:x=oTauun?Px=oTu6NIBzSohIBpsmgm$oyar]|om$oy~%|qv)pt Xar]nT|qv)pt Xu$mfOmJXar]nHmfOmJX
a_*ppme|9nW~7rJ|9nW~7v*waz0C~7rJv*waz0C~7u|nW~7mongmLo*rUu|nW~7_*ppmeu|nW~7M!nGS;vxo3Tq|p|nuqLDat4nGn1^I-S^NvubBmfO&-S
~erJoZnHmfO&-S~eoZnWLnK-S^NvuzUt4o&uGuXu6t4o&uGuXo3PnyrGo3TmQu._*ppo*yfEx9r1DyfEx9v*waz0o!x9o!~ZyfEx9_*ppmeo!x9rJ_*ppm
eo!uXu:(W|ix9mongmLo*yfEx9rJ^0v*waz0^0qJ,^Nvuby:o!uXpd(W|ix9zey:o!x9w>y:w)mMpp|;uix9rJw>y:w)mMpp|;uix9_foMy:o!x9o|nGp7
y:^0nGn1^I-S~ev*waz0nGn1^I-S~erJnGn1^I-S~eo|yun+!m0mEranVrUFLmDn+nGzUFLmDn+nGu6FLmDn+nGaw>Pn+!m0mE_*ppmeraFLmDn+nGay0v
*waz0w>o&uGx9rJnGn1^I-S^NP(W|i vuo3NmLy9KneTmZmJn[n_npAnG,NmLy9Kner]|oVqS,NmLy9KneSPnys|r]v_nys|BmfO&-S~ew>nGn1^I-S^Nr
_Pm;_? ^0rJw>nGn1^I-S^Nr_Pm;_? vupsmqu.qxamongmLo*rUr1^rp4mMnErLmeCmqu.qxatNn?D^I-mongmLo*yfpuoqneuun?D^I-mongmLo*yfpu
oqnetNp+t0o7o*yfpuoqneuup+t0o7o*yfpuoqnera_! uku6_! ukb_%q) ukzUuomExknhrUXarJ_%q)s&six~a|Bx~arJx~mbmim,u^^[ ^5 ukoCu
5 ^5 ukboXu^^[ ^5 ukoCu5 ^5 ukboUu3m,^[ ^5 ukcoX^[ ^5 ukpsm!nE|:~B p!pTr.p)ukarJ_%q) ukbv9mJ_%q) ukbrav9qztpr]ui v9mJB
nwmO_ULmDmIv9qztpFLmDmIv9mJBnwmOa|Bn=w7mcukxGw7mcukby9qem9men=w7mcukcn?w7mcukbv(q4vnBpz^BukbwZq4vnBpz^BukarJv(q4vn^5 u
kbwZq4vn^5 ukbv(q4vnBpz^BukbwZq4vnBpz^Bukasin=njn9m:pu_|nHpz^BukxGnjn9m:pu_|nHpz^Buka|Bn=s+sSnHpz^BukxGs+sSnHpz^BukaDm
iskmJr=p4mMoMy0q[&q0mrs3n~q0oZe^Peo|rCowm9eqJu2(wYu(z1mRn*m0|:~i q[&q0mrs3n~q0oZe^Peo|rCowm9eqJu2(wYu(z1br=p4mMoMr1|:~
i q[&^Autfn~^AoZf^Pfo|fSowm9fqJfxUq0yDz1ar]mBr5repGtLw=r,xknhr,~?mh&nMmb_LtLpGtLu1wdo,DmjFp3o&mJ^UrJmqom-xJPme^Ust^UrJ
st^UySmest^UrJySmest^Ura^Un~pomEp<-qAnOpGtmbys-qAnOpGyprapGypr]uinWm!Vmer&n3pGm?dsBn3pGm?o3m_^>ra^Ur]nW&x)nE-y:ra^UwZm
oAn2DrU^Uv(moAn2DrU^Uz]-qFuGt0o7o*rU^UFqSn^qFuGt0o7o*rU^UrJtNwZmongmLo*rUpGtLuuwZmongmLo*rU^U_tnLmetNwZmongmLo*rU^U~Tn
vnSnta_tnLmeuuwZmongmLo*rU^Uy0r]rU^UWo2potrvWm2me^Uo!-trvWm2o*,_LtLpGtLu1wdo,r]ui-trvWm2o*,_Lm?cpGm?n4mDwdo,nGn1^I-ogB
me^UrJnGn1^I-mo*yb^UWo*oz-?Im0mE^Ur]mBo*oz-?Im0mE^Uv*-_*ppme^UoX~TnvnSntap^m.Mm9mh&mInNm0u6ynu9?(miu<rUpxapMPm9wq~Fav*
xZ_,mbwG_,ark,-momameBpT^;m;sFImFap+,-momameBpT^;m;sFImFamDqE(mhn2aq!pu|!pmPw)o*mixZ_,o3wGzhPw)o*mi,|!nhax~:qvzgm^uDm^
n:mIyEn8v&!at|~?mhuOm^uDm^n:mIFmfn8v&!o3oqme~C_nnVcmDu6v>:tdx1nDanVz&ay8MyIp|v*n8m<vhoitNn?_&m2z&auun=_&m2z&z+rmmF vt_
<rmmF vtau+ rmmF vta^2rHyMbssyMz+_AoXsZzxm0dyMz.nwmMMmaat|n?yMy%yMarHyM:wLoWanSZvY;~?DmeBnvvStGm0u6u9x)nE-mhDmev>dumq1
mMm$epGmMm$mboqqpq1mMm$dpGmMm$am^uDm^n:mIrkyfpu_pvIbp+yfpu_pvIy%vnvIxGvnvIy%oXvnvIxGoXvnvIbrkrUnjn9m:pu_|tWbp+rUnjn9m:
pu_|tWy%y9qem9mew7vyn?y9qem9mew7oisByh~ym,o,r&yh~ym,o,*n:^4GmaPmewLo,C^4GmaPmewLo,n?qgy0w=at|q1tLpGtLn=n?tLq1oXtLpGoXt
Ln=n?oXtLq1rtzJrQbpGrtzJrQbq1oXrtzJrQbpGoXrtzJrQn7m_mCGm,o,BmjoTm,PoOu4nHxEKoE1oE2oEpIoE3oEuboEyZoEpI3oE4oEvGoEvwoEpI4
oEp,oE1p,oE2p,oEpIp,oE5oEy^oEy7oEpI5oE^6oEub5oEyZ5oEpI^6oE^<oEvG5oEvw5oEpI^<oE~PoE1~PoE2~PoEpI~PoE6oE^hoE~loEpI6oEw.oE
ub6oE2w.oEpIw.oE|OoEvG6oEvw6oEpI|OoE~QoE1~QoE2~QoEpI~QoEqMoE1qMoE2qMoEpIqMoE3qMoEubqMoEyZqMoEpI3qMoE4qMoEvGqMoEvwqMoEp
I4qMoEp,qMoE1p,qMoE2p,qMoEpIp,qMoEtb1tb2tbpItb3tbubtbyZtbpI3tb4tbvGtbvwtbpI4tbp,tb1p,tb2p,tbpIp,tb5tby^tby7tbpI5tb^6tb
ub5tbyZ5tbpI^6tb^<tbvG5tbvw5tbpI^<tb~Ptb1~Ptb2~PtbpI~Ptb6tb^htb~ltbpI6tbw.tbub6tb2w.tbpIw.tb|OtbvG6tbvw6tbpI|Otb~Qtb1~
Qtb2~QtbpI~QtbqMtb1qMtb2qMtbpIqMtb3qMtbubqMtbyZqMtbpI3qMtb4qMtbvGqMtbvwqMtbpI4qMtbp,qMtb1p,qMtb2p,qMtbpIp,qMtbp~1p~2p~
pIp~3p~ubp~yZp~pI3p~4p~vGp~vwp~pI4p~p,p~1p,p~2p,p~pIp,p~5p~y^p~y7p~pI5p~^6p~ub5p~yZ5p~pI^6p~^<p~vG5p~vw5p~pI^<p~~Pp~1~
Pp~2~Pp~pI~Pp~6p~^hp~~lp~pI6p~w.p~ub6p~2w.p~pIw.p~|Op~vG6p~vw6p~pI|Op~~Qp~1~Qp~2~Qp~pI~Qp~qMp~1qMp~2qMp~pIqMp~3qMp~ubq
Mp~yZqMp~pI3qMp~4qMp~vGqMp~vwqMp~pI4qMp~p,qMp~1p,qMp~2p,qMp~pIp,qMp~tk1tk2tkpItk3tkubtkyZtkpI3tk4tkvGtkvwtkpI4tkp,tk1p
,tk2p,tkpIp,tk5tky^tky7tkpI5tk^6tkub5tkyZ5tkpI^6tk^<tkvG5tkvw5tkpI^<tk~Ptk1~Ptk2~PtkpI~Ptk6tk^htk~ltkpI6tkw.tkub6tk2w.
tkpIw.tk|OtkvG6tkvw6tkpI|Otk~Qtk1~Qtk2~QtkpI~QtkqMtk1qMtk2qMtkpIqMtk3qMtkubqMtkyZqMtkpI3qMtk4qMtkvGqMtkvwqMtkpI4qMtkp,
qMtk1p,qMtk2p,qMtkpIp,qM78apGutreqgq*r9eoXq*zgq1oXqgq*zgpGoXqgq*zgn=n?oXqgq*zgpGutrertzJy=q1oXrtzJy=pGoXrtzJy=r&qgqvzg
sBqgqvr9byWo,r&yW_qoXnutV|6oXnutV_qyWnutV|6yWnutVtLutreyWnutVtLqgnDuG,~BasBrtn9y=r&rtn9y=pGqgs%:q*r9foXq*r9butreqgs%fu
mq*r9goXq*zgq1m?-s%apGm?-s%aq1oXm?-s%apGoXm?-s%aq1rtn9ui v>apGrtn9ui v>aq1rtzJnHq|n9ui v>apGrtzJnHq|n9ui v>au1^bnV,_Lt
LvEnV,rm^btLqYmJqgodbvEqgodo3_LqgodbqYmJqgodau1^bm?oku1wdtLvErtnV,_Lm?o3_LrtnV,rm^btLqYmJm?oku1^bo,yEn8|Hvxn8Fmfn8v&!_
Umfn8|Hvxn8yEn8v&!o3_Lm?nWt1n8u1wdo,u1wdm?nWt1mi,_Lo,Fmfn8|Hvxn8u1wdo,yEn8|Hvxmi,_Lo,u1wdm?nWt1n8u1^btLqYmJm?nWt1n8u1w
do,Wo9;rtq4m.w)TLnvp+artq4pG$m9nWm!Vn8m<vhSfoFvhp1r&$m9nWm!Vn8m%z)Sfm=z)oiwZmht[uEnW^4o,v(mht[uE *n:^4o,_HuE *n:^4o,y
s uE *n:^4o,_HuEnW^4qgxknhc*n:^4qgw=atNp+,nkn&n*~FnW^4tLrk,nkn&n*vp*n:^4o,*n:^4Cy?wLo,C^4Cy?wL|6rtoW,oSmJq1_qrtoW,oSmJ
^U|JpGrtrDq1|6qgqnojaq1qgqnojapGrt$mquBo6Xz+n?rt$mquBHpar1asButrertzJpar1z+tYrHn?tYssuS_]ssn?tYrHuSuOm<zin?oFzin=uS_]n
=oFzin?uSuOn=tYrHn?tYrHuSuOm<zin?oFzin?uSuOn=tYssn?tYssuSuOm<zin=oFzin=uSuOq1wyrHn9y=pGwyrHn9y=sBwyn?n9y=r&wyn?n9y=q1w
yssn9y=pGwyssn9y=sBwyn=n9y=r&wyn=n9y=q1wyrHzJy=pGwyrHzJy=sBwyn?zJy=r&wyn?zJy=q1wysszJy=pGwysszJy=sBwyn=zJy=r&wyn=zJy=q
1wyrHrDq1wyoFasBwyn=Bpgt[sBwyp+apGwyrHrDpGwyoFar&wyn=Bpgt[r&wyp+aq1wyrHrDpGwym<essrDpGwyoFapGwyrHrDq1wym<essrDq1wyoFaq
1wyrHrDt|ySeoFr* t|ySapGwyrHrDt|ySeoFr* t|ySasBwyn=Bpgt[r&wyp+ar&wyn=Bpgt[sBwyp+_<oXqgmqommeo=az~p)rD^UxewJ rD^Uq1rtrD
xewJapGrtrDxewJd!o_y!y1t;vkrDq1_qrt$mquBo6xPa~VrDpGm?o3nKzhrD^Uq1rt$mquBHxZ_,o3wGzhrDq1o,n=nPtVs%_<nPtVs%arHnPtVs%assn
PtVs%ayWx~^;m;sFImFaZohx,na,nJnmp;P;CvgarkrUs+sSy4p+rUs+sSy4rkrUw7oip+rUw7oiZohx,na n=Im^G;Bpz~vn?Im^G;Bpz~vn=sJDn8Bpz
~vn?sJDn8vIark~b:|Iap+~b:|Iark~b:mMm$ s$p<nWqmtvp+~b:mMm$ s$ysnWqmtvrk~b:mMm$ s$ysnWqmtvp+~b:mMm$ s$p<nWqmtvn=vnvIz&_<
vnvIz&z+uE xPy4n?uE y5y4oXn=uE y5tWxGuE xPy4n=ranjn9m:pu_|y4n?ranjn9m:pu_|y4|nFx=neqbZmCZpT ppnem&nzUx1vnv*n8m%qzn?vnr
byHmH_Km&nzUx1n?nNm0z&anNm0x> (mhn2anlpc;nNm0o3pAm2_nvnv*n8rkdm<au^nNs|synNs|nNm0:|IasynNm0:|Ia|Wnpm_;vnv*n8m<doFam&nz
Ux1nNm0:w2%M sQn8s$rtq4m<okp+lrkjoFokp+lrkjn?n3m<jn=n3m<jn?n3oFjn=n3oFasynkPp;,n+ankPp;,n+:o>ogn>mpwL~En?rt~En=rtoWar1
:vSogay0x~bp!!m0Lbq!pu|!nhbpMPm9wq~FawL~?DmeBnvvSogok_Hvb~?DmeBnvx~bsv,wGsFnJSmeXay0*n:zCpotp~?mh&qQrHrt$mquBHuIs|r1Dr
UBnwmObBnwmObxPby5ar1y(wLsg~)m=nmpiqvr9mcsg~)p+o3oqmeyEn8v&!,|gbFmfn8v&!,|gbvun0r1mboqnepivto*rLniapxqEsx|Iamcs$pxapxx
>m2u,mc^>ys_<ynrDn=pxz+ynBpgt[x~ax~nHpgt[n?pxu$mLmMqpn=zBcn?zBzSnHmLmMnepUS:n=zBcn?zBu6nUm!GmTzyranUm!GmTzyrkmBmCGLnvF
x=nep+mBmCGLnvFx=nen=rumBmCGLnvFx=nen?rumBmCGLnvFx=ne(CmtmO;(n$mVyemM;sR(n$mVye(n$mVnvr=p4uG:x~aru-sQmeMnwmMMmao3oqqpu
9n9Ux1_*ppne(pfnzEmcnzamoU|Tm,r_wiCqzz~p)nV,xEnOp!!m0LfumxeoWasem9n:mIsgnV,xEnOp!!m0LaGm0InLn<nya$m2o_D^|n(n&aoF-q4px:
n=zBdn?zBzUv>:sstLnSZvYne|ar1:sso,o!y>:sso,m2RmD-ogmQDyfpuoqtEo!rLtE|av>brav>b|ar1bo!uIs|tGm0-n2mTn|Daq!pu|!pmwJo3|!nh
:o>ogaq!pu|!nh:qvzgBmC,|!nhbq!pu|!nhaoXw=ayWw=av(q4s+VmevnvIawZq4s+VmevnvIaT(yexkyeN-%Yy>mEopwJcqnwJcp&wJb~8pywJz&ew=m
b_pxmqytD wJc~8pywJapi~C_nn3wJctKwJ|]-%nvp&wJzTwinS ut,n5o3n5m^na:~,GzPayh~ym,~,GRmIwJan$mV;p!mJ~,GzPa~,GzP:rur9bAm[Ao
zx>|gaoeUmTna|(mwtDa*n:^4~,ornaavr~,orna:w)TnNvpq,rp%wAmEnJm0n>nkn&n*vpq,rp%wAmEnJm0_jmJ(CLtun8~)nJs|~,GRmI%wAmEnno&mJ
wJam_tQNIpy~,GRmIwJa~,GzP:q1qgodcpUSnMcxmqytDc~8_]o>ogc|Iavta^2n=ynwJaZohx,na,q]m^nWmtOmhnads:Pmidr_p?tDaw=nMy(wL~Es
a nlCyI~Exe~Ezddxeojn>nKqjx$vmrapxaxknhnM:^[ ~Ezd^tmfn8nDspyEn8nDoiw=p)s$n=pey>dn?peuIs|nECnj mDnWmqu.r_wiCqzM|qv)ptnM
qE~E|Io3nkIm.w)mJr_wiCT:ysnWuvo*o3m^tVr_wiCqzM|qv)ptp)s$n=pey>dn?peuIs|y0M|qv)ptnM_^ yk~%|qv)ptp)s$oXr1ay0~?mh&qQw=p)s
$pxaxknhp)s$px~%|qv)ptp)s$pxaxmItKr_wiCqzm=$n3xmItKr_wiCqzZohx,na mQmTnamICmtOmhnaan(!p4m^na mDnWntmqwiCqzxmqytDz&a~8s
~xknhnMco>ogaxmqytD:o>ogc~C_nnVa~8s~~C_nmDbrDxmqytDaxmqytD rD~8uO~8pyrDog rDxmqytDaxmqytD rDog rD~8uO~8&nHpgt[n3vto*:~
8uOxmqytDnHpgt[n3vto*:xmqytDpsy?~8&x>m2u,vyxmqytDx>m2u,oiruy<xmqytDc~8&psy?~8&x>m2u,mcnV,m^tVr_wiCqz~C_nnVvdbmDvdaoX~C
_nnVcmDapixmqyCp3~C_nnVdmDo3nSPn8^2mDcnVa~C_ntKo>mTPPn8~C_nnVbnV:M~M,~BbmD:M~M,~BbnV:vSySbmD:vSySbnV:oXo>ogd|IdoX|Io3m
pnEqp|Ia~C_nmD:oXo>oge|IaZohx,na^;mUAs$*mMwXn[tDrynN;*mMwXn[tDaz~nMu)asem9n:!vdayWvSog:oXq*r9eyWq*zgxewJqE~EyEn8nDoiv|
oT%nT(nh,sFoT%ps_[tGmXvdaz~:^0!o_y!r(_^ ykamar_rF_~m;nvrEtKy1z~p)rDw=qQw=p)rDz~qQz~p)rDxewJaoXCvg vRautnW&qyCUmMoMz~nM
oip^u9qyCUmMoMz~nMoiz~nM:wurDn3wuojav:zQwWT:t4rloWaxP:wL(mhn2ay5:wL(mhn2axP:_!veay5:_!veat;vkmD,xEnOy1~VmD,xEnOy1t;vkm
D,xEnOr(qE(mhn2a~VmD,xEnOr(qE(mhn2at;vkmD,xEnOr(vda~VmD,xEnOr(vdat;vkmD,xEnOr(qErDp+a~VmD,xEnOr(qErDm%qzt;vktKmar_rFm^
nGa~VtKmar_rFm^nGat;vknVx8-vrv;y1~VnVx8-vrv;y1xPokv;mar_rFm^nGay5okv;mar_rFm^nGat;vkrDru-vrrErDy5a~VrDru-vrrErDxPat;vk
oW,sFoTq|tKvRa~VoW,sFoTq|tKvRat;vkoW,sFoTq|rDy5a~VoW,sFoTq|rDxPat;vkrD~VrDru-vrvRa~VrDt;vkrDru-vrvRat;vkoW,xEnOrErD~Vo
W,xEnOvRa~VoW,xEnOrErDt;vkoW,xEnOvRo3xEnOr( tKxPey5exPqE(mhn2ey5qE(mhn2aru-vrr( tKxPey5mbxEnOr( tKxPfy5av|oTq|tKxPcy5b
rDt;vkrDz~nMc~VrDz~qQoXNninOxPcy5cxP:|Ia~Vo>mTPPn8xPbBpgt[xPaxPnWy?BYnWm!nEay5nWy?BYnWm!nEaxPnWy?BYnWm!oMoW,xEnOvRay5n
Wy?BYnWm!oMoW,xEnOvRo3M!_? sAaxFoAsAo3M!_? vktKy1xFoAvktKy1z~nM:Bn5PnvoWu:mQrfn2mcoWx8-vrz~nMo3UCrfo*mcoWx8-vrz~qQPmQr
fn2mcoWx8-vrv;r(o3UCrfo*mcoWx8-vrv;r(u:mQrfn2mcrDz~nMo3UCrfo*mcrDz~qQPmQrfn2mcrDv;r(o3UCrfo*mcrDv;r(u:mQrfn2mcrD!o_y!r
(o3UCrfo*mcrD!o_y!r(u:mQrfn2mcrDv;!o_y!r(o3UCrfo*mcrDv;!o_y!y1oXPmQrfn2SmbUCrfo*So3nK_,z&o3wG_,z&o3nK_,:w=nMr*o3wG_,:w
=nMr*o3nK_,:M|qv)ptnMr*o3wG_,:M|qv)ptnMr*o3nKzhp|tKr(vdo3wGzhp|tKr(vdo3nKzhp|rDz~nMo3wGzhp|rDz~nMo3nKzhp|rDxewJo3wGzhp
|rDxewJo3nKzhp|rD!o_y!r(o3wGzhp|rD!o_y!r(o3nKzhp|rDv;r(o3wGzhp|rDv;r(o3_pn=w2^w wJxGw2^w wJpsuvo*xZ_,mbwG_,mbnKzhtKr(m
bwGzhtKr(o3nKzhoW,wG_,o3wGzhoWxZ_,o3nKzhoWxZ_,o3wGzhoW,wG_,bBpgn2xZqynmn3vtmeBnvySmHxZ_,ay8MyIp|v*n8oFvhoiPmVnLmnK:nG;
p<aTucSqImIxmqytDamnKmi|]&mnKmia|Jn=yMbssyMbrHyMapMPm9wq~Fx>ax~ yWn?sZzxs|oXx~ n=sZzxs|x~ oXn=sZzxs|oXx~ oXn=sZzxs|t|n
utVzJ n=_iBoAp|oXq*a|JssyM:o>ogbrHyM:|IdoW,oSmJssyMaoXssyMbrHyMmbthK;_tqQsyruqc;_tqQmYEmcv;~?n2:syr=p4na,|gaqbppqpwL^S
ojassyM:wLojap!!m0L:qvqc=xewJayWx~nH(%nvmQmTnadumqvr9mRvg wJbNninOxPcy5aru-pppuxEnOt;vktKrETm]~VtKy1v,m0,|!pmsJ%nvmQmT
naa^2yWx~ wJaru,|!pmwJu6x~|]-%YrUx~au1rptxTrUtLqYTrUm?o3rmrptxTrUtLqYTrUo,n=p+rU_qrao,sBrao,r&rao,u1wdratLqYmJram?o3_L
ratLqYmJrao,n=n?rao,rHoFui |6qgxJ oFvhudm<vhoiq1qgxJ oFvhudm<vhSo3oqqp_HzBcys zBcuun?|HzBctNn=|HzBav>:n=zBcn?zBc_HzBcy
s zBanDuG_KraL~*_K|aL~*_Kram[Yu<_K|am[Yu<_KraPmXvDu6PmXvDbmgXpTuOramgXpTuOvSramgXpTuOra^2r1b|Bv>u6|Bv>zU|BnSZvYne|a|Bn
SZvYneo!pav>cnSZvYneWo2EpanSZvYneravSm;~|Sne|avSm;~|Sneraqbm;~|Sne|aqbm;~|Snen=m?y(r1ap^q1m?oin=qgy0w=at|m%z)S,m_mCGm,
_qutreqgq*r9eoXq*qc>zJrQcyWnutVtLqgnDuG,~Bds%:q*r9foXq*r9butreqgs%fumq*r9goXq*r9brt$mquBo6XrAo9;rtq4m.w)TLnvm%qzz~p)rD
q1o,q!;xewJ rDq1_qrtrDq!;!o_y!y1pGrt$mquBo6y5n>wG_,aq1yh~ym,|6yh~ym,o,q!;xewJ rD^UpGrtrDq!;!o_y!y1xewJ rDq1_qrtrD!o_y!
r(dq!;xewJapGrtrDq!;xewJar&stZmCZpT o,y)T,xEnOu1rptLz]SxEuG,rmrpo,|arIx9o!u<uXrAo2pumkx9rawZq4PmXvDu6wZq4PmXpTuOrJ^2r1
bOV!:OVmI(mhn2mRn*m0:wL(mhn2mRn*m0mRn*m0|:!mMmQo3xEnOu1rpqgodmeo=az]SxEuG,rmrpqgodmes%o3xEnOu1rpqgvSs%az]SxEuG,rmrpqgv
Ss%u$yIrtq4r&$m9ohmDrptxqz|JByIrtq4r&$m9ohmDrptxqzq1sto,sBst|6sto,r&sto,n=n?sto,rHsssto,u1^bsttLvEstm?o3_LsttLqYmJst_q
stySmeo,sBstySme|6stySmeo,r&stySmeo,C^4stv*uIm,o,*n:^4stv*uIm,_qstrtn9y=sBstrtn9y=pGstrtn9y=r&strtn9rQpqq6u1^bstrtn9rQ
bvEstrtn9rQo3_Lstrtn9rQbqYmJstrtn9y=q1z^oXqvzgsBz^oXqvzgpGz^oXqvzgr&z^oXqvzgvS?qToKyeqb?qToKyeq1strtsRpGsto,sBstrtq1p|
r&st|6strtsRq1sto,r&strtq1p|sBst_qstq,Ix1m?oisBstq,Ix1m?oipGstq,Ix1m?oir&stq,Ix1m?oiq1o!y>DrUo,sBo!y>DrU|6o!y>DrUo,r&o
!y>DrUo,*n:^4stn?U-momamem?cys U-momamem?cn=U-momamem?c_HU-momameo,mQsZ rkbp+^rWvrrkbp+aoZnWqmoAm?mcoeLn8*n:zCnepGrao,
oPSo4y6 p;P;nnEo1TqSn&oin~pomEp<-qAnOq1|+tmbwZqAnOsB|+tmbp<-qAnOpG|+tmbv(qAnOr&|+ypraq1|+tmbsB|+tmbpG|+tmbr&|+ypr&z^t|
xJ m%z)Sgm=z)oisBz^t|xJ m%z)Sgm=z)oiq1z^t|xJ m<vhoipGz^t|xJ m<vhoiq1z^t|xJ oFvhoipGz^t|xJ oFvhoio!nWm!Vmer&n3q1m?epGm?
csBn3q1m?epGm?cq1n3sBm?cpGn3sBm?cq1n3r&m?cpGn3r&o,m|~qpyrtssrkdm=nmrHrkdm=nmn=m<cn?m<cn=oFcn?oFam<vhSrUrtzJrQ:vSogarHm
?z(s$nnw)Tvn^wao>mTPPmiyfpuoqnicn3o!rLnibo!rLniu$mfOmJ^w:siXay0Xbn,mEXzSy<tdmQDbuomEtdmQDau^raPmXpTuOvSray||kuOray||k&
b|Bm<-q4yntdmQ^]oF-q4yntdmQ^]v(q4yntdmQ^]wZq4yntdmQD^rPTmw;mv uta_HzBuIs|ys zBuIs|sit4y:o!nWnhPatpsit4y:o!nWnhPu6t4y:C
nhPasLuGrUt4y:CnhPo3_pnJmhna (wqr<au>m2?(p;qQGmqm<oyaoaUsgmv t(rrnEaTucSoaUn9ar_ydP(Aanz^oEAazuGnBAu:nULnh|]niSnhu6o_&
ugwWAzUuomE&nW~7TtG;sio_py%?psm<ImYam(n2oiZEnhaKqSOoimaqZooangm&n9oiVnwCufanJqyseuOn=zBx9n?zBuXo3T%:n=zBcn?zBaq1utreqg
yntmoisButreqgyntmoipGutreqgyntmoir&utreqgyntmoim2Imcmv r~uto3o*yCaRnhmhpCnzth~Cn&!o; VmC(mMm0oNOqLm0dm_(mMm0pF(OqLm0n
>mXvDo[mQn2CIs|z~nM:(n$mVYr*amwmVo*o;o3Ep!AuGs&ruDs&PnzSo*s&syn?nNs|_|SnLmQIBoAq,nhEs&GmTx*npn:^YAZnXBs5_:nE~sGmTGqZnR
mYBmqrPniTnXZt5nET>v1m;nsZnkLJ<osxbo<mIosxbnRDJm2VnRotKnsLJUm.JzaYSs[wYu8nR&nXnJzMJnRRmVmhn>nSVnsTVm|mYds5nXFRmVnXHm2n
Xw$nXP>moueTmhdnLm|VnRzbYm2nXYm2nRp$mMn>Psem2nvrgYnX^_Ynhfums%rPns^(uGpaYnhpFmCyvnhd^(nOBmCyvnh^tmV<oso2S<moTman&o[mqK
U?zx <u|oO;MYSs[>x)UnuT;nLm|qL[AZnXBs5_:nE~sGmTGqZnRmYBmqrPniTnXZt5nET>v1m;nsZnkLJ<osxbo<mIosxbnRDJm2VnRotKnsLJUm.JzaY
Ss[wYu8nR&nXnJzMJnRRmVmhn>nSVnsTVm|mYds5nXFRmVnXHm2nXw$nXP>moueTmhdnLm|VnRzbYm2nXYm2nRp$mMn>Psem2nvrgYnX^_Ynhfums%rPns
^(uGpaYnhpFmCyvnhd^(nOBmCyvnh^tmV<oso2S<moTman&o[mqKU?zx <u|oO;MYSs[>x)UnuT;nLm|qLau|^YL:oXog[L:oXog]L_dqF~sPu=>R:s%[A
u=>T:v&!r9]pPxQ[pPxQ~^_7|m_7]Z_7[Z_7]!pAxauPo[~Sol!x:[V:n?odn6mPmBuPn0mPmBuP|^:~T]vbH[vbpVs%rGmcpAnRqp_tnLo[~SR:s%ds^t
Mtg(mhn2b^Zu^EmbnKqjvBT^$JzT|GmSs*Vau|uHrVx>pOtVs%tzx>pOtVs%psntn:^Y!FA[!FA]qLnu[qLnu]Gn(m^[Gn(m^]D!nu[D!nu]EnB[EnB^xr
mxqrm]ZA?[ZA?]m(nG[m(nG]uDuD[uDuD]I~pnu[I~pnu]vXA[vXA]mTUmT[mTUmT]^^[^^]NI[NI~^mh|mmh]O[O]s:[s:]mq[mq^xIm^xqIm^]?U[?U]
su[su]nP[nP]pkI[pkI]p([p(]Orm[Orm]rco1n^P r2[rco1n^P r2]vT~d A([vT~d A(]Cr|Pn9sbp]EnB[Cr|Pn9sbp]EnB]rco1n^Pr^maA[rco1n
^Pr^maA]rco1n^PohI[rco1n^PohI]Cr|Pn9sbn&ohI[Cr|Pn9sbn&ohI]vT~d Orm[vT~d Orm^xn(s:xqn(s:]vxo*,mgI[vxo*,mgI]vT~d,mgI[vT~
d,mgI]vT~d zI[vT~d zI]ApkMsFp]KmgI[ApkMsFp]KmgI]rco1n^P oSI[rco1n^P oSI]vT~d oSI[vT~d oSI]vT~d m([vT~d m(]L-momamem([L
-momamem(]vT~d mgI[vT~d mgI]vT~d m(T[vT~d m(T]vT~dvvnNIA[vT~dvvnNIA]vT~d^;JA[vT~d^;JA]vT~d,t5m^[vT~d,t5m^]vTNnKI*,t5m^
[vTNnKI*,t5m^]vTNnKI*ohyy[vTNnKI*ohyy]vTNnKI*oh|[[vTNnKI*oh|[]vTNnKI*mB~p[vTNnKI*mB~pmbo4 otndMo%mqpdo%mqn7?Umqp1?q%mq
cpko%mqtUIm^,Im^]Cr|Pn9sbn&,mgI[Cr|Pn9sbn&,mgI]Cr|Pn9sbp]GnNIA[Cr|Pn9sbp]GnNIAmRx%No%sxSPnCmVpmnzpMdwWm:]mlm(Im|Cr^mgI
[mlm(Im|Cr^mgIq3ztvTNnKIpCw6dm.w)mJ_!d(m.w)mJ_!dqI;~?Dm2bFmjtD o+pebw6z.mDPnU~C_n~?DtvozmDyy*^$*pF*s9*tIwCr4V(tzm9o[|f
(q(|fmTSp8*oN%dwCp!tzrBdmj>S*o[%dmwdpA%dpk%s9H*zV%dmo_ZnL(ri|fJoTrioTd^O^E|fJH|fm(>xbt5>W>rBdnU>oP^|d+ztAm9pqq6mMn$pTo
6mSq+p$Bcp$BoxYpTwVpTHoxBm2BoAnlAn2Mnvp$Jcp$JwVngwVngoxYngDwVngDoxn|~$p$Fcp$KpYU%Eqrp$Kcp$pkoxp$oxBm2BoAnlAn2Mnvp$oxrO
%Eqrp$oxp$Hoxp$)p$KoxrO%Eqrp$Koxp$QpYU%Eqrp$QwVndp$^~msm(sXq|p$ZoxrO%Eqrp$ZoxY!wVn(wV*pYU%EqrYpTNrPnNwVmawVnbY%wV%RwVp
ToxrO%EqrYpTHmsYoAYpToxYnzwVnzp1p$mocp$nmp$v6p$nLwVoOnmYo9cp$WwVo)cp$Zc?Wm;m0m&mJp$Zcp$v]wV=s!q3^=o_|GmSmT^7!os_snx|vo
yq3E.u9^n_6vttv^kIntn&,YtFBm,nS)o_)mqqHOxYO)ml)n9s<OpHOpHs!rj^+mIOzYO)mYp[mYrqO)pwv$Oq7nU)nJrjGWrjGw]sXuM=sXvz+~oo?z%U
n7mhu?Az%^Co?=o?m]oPCCs<CnbCCndCx)s<rf=CC=CCm]oPv])v]nbv]ndv]A)v]^Cv]=v]m]oPCnLs<nLnbCnLndCCm(s<q]=CnL=CnLm]oPQq+QYnbQ
YndQp$)Qn|=QY=Q_ToPKq+KYvoYndKp$r%n|~=Y~=_ToPXq+XYnbXYndXp$)Xn|=XY=X_ToPGq+GYnbGYndGp$rjn|=GY=Gs!aoPCx%CYm|Lv)yYB>rx|<
tI>z3tz>uqm;dnkdr4~~>m2dnio[>rgtT>q]dzbmonL<FmV<EnfT><I>DJm2Vp8&qVp=o6s5rPoOrPnXtSmMxr<zlYnhpFmCyvnhdtSmMxrBmCyvnh_<nN
m0xZzxrOq)m2o5uGxZzxrOq)tvrkxZzxrOnay4p+xZzxrOnay4n=nDuGxZzxrOnay4n?nDuGxZzxrOnay4~fxmnJmTq)m2b|nxmnJmTq)tv|nTucSnJmhq
)tvn=TucSnJmhnay4n?TucSnJmhnay4^vo*_Kn=~fmUm:mh&y4n?~fmUm:mh&y4o*mVmDImICmD&m:ap!pTp=nUoimnybp!pTp=nUoisymnybp!pTp=nUo
iHw^m.nzn9s||n|Wm;Ooir&_amDAasB_amDAa|nwZq4nNs|oX|Wnpm_;zupAm9auTxmmqBnNu:!MnHucnLazupAm9:sNoiw5:tgoWz+tMp!maHmjS;vI_<
tMp!maHmjS;vIaw5qE~Eojz+x~:m_oTL_<x~:m_oTLa_Hn=petWxGpey4ys n=petWxGpey4rk,r5Wo)mcUy4p+,r5Wo)mcUy4n=oXw7oin?oXw7oiwusR
o+opw%ao+opsRwuw%o3oqmet4opw%as>opqxasy_!aqbw5atgo&qzWmDDug|vt9nDau^^[a~fnDmRu5asZo*,nkn&vganusXm2:n=xjn1cn?xjn1au^nus
Xtv_HpeugtDqQut-pNySan~popNySo3z1qVr.p]w6aq*,zL nDoiWmCGLnvqbppneCm)nwn5aoXzupAm9asy^[aoXoU-q!o*-9 ^5ayS:n=m<sZaru,nhP
m9mh&oyauToUr^o9Yuqsvr^o9YKnnoWaoUr^o9YK)umnDaru,yMme^[anDuG,|!nhayWnusXtvo:owmI^[ap!pTr.pmqxu:u>Tpmy8VoOpmqxpsqmItVqI
;~?Dm2psmqu.PoOp;:n?vxogdn=vxogamMqSI*nMuHn+ao:owmI_%q)b_!ark~bu=nep+~bu=nerk~b:ruzgp+~b:ruzg_Hvbn=w7p1n?w7oiys vbn=w7
p1n?w7oi|Wnpm_;zupAm9pq2q6CJK mjwqmImQrn|RCnp|Tn7Eu9mEwOtipM^ncmln)?Bm0qBNu,;s;r[m.V(ptn7E!y*s;r[v8;xSn7NsP=n~ngn7pv~z
s;r[v9mJs;r[pWcp=~&nLnrx2mwyU_]n2vWyU$m2oCIqLnp~:pOmF s;r[nPmQpd|Q s;r[~YxrpeqDmQ;TRmwKoCmLcmYGz!ng=n,mJoJnWnS$q^Yx2s:
m|mJs;r[Bn(mlm]mhLKoC-~YFnB|:oTKn4^BxScm&mo~]Ev2v%q^vzqZDr6tGtVs;r[m&|RMmDT%coru.wOtiTmCm2oCnS$nicqYmJs;r[C-~YFnBDug=~
YxrxvcxvoC-~YFnB|:rnEnLn>_|cn_OnmC-~Yxrtcnm~YFnBDmB!KrK!K s;r[CmVYoC-~YxrGqZ^]t|s;r[C-~Yxrxxs9oO=o_mwmEs;r[mj(r6xT=C-~
YxrTsHmem0vWm2d|~v+(D^tsSq^^>wOtiC-~YxrE|Ro=oC-~YxroSS=Br~GnUSnmC-~YxrnPmopFnCDn>!nm~YFnBDmBmgoOrPm;oUoC-~YxrFmqGz!-~Y
xrowm9oC-~Yxrowp%J-~Yxrn9O$oC-~Yxrn9Ov6J-~YxrD~6&oC-~YxrD~6&pYm!Tm0z!-~YxrTm!Tm0oC-~YxrTm!Tm0pqC.KnNXo%mjwqmIr~pp=nDn7
|gn7Eu9^]odcr[npDoc~:~(p1m9mFcofnmssmln)Co>cn&=?Bm0cw2mln)KNu,=PmLm2rKp=n7nJ_]n?w2mlymsen8x=nSrSmQpYp%m.V(ptn7E!oCnp|T
pdm|VoO=Ap4(ocrmv6x=nSrSmQq^%$n7nLqZ%pXnsSoUsScowm9mir6mCrKmU~:nLoT^]mqoJc(nLn7mks8M=CmDPSx2r_v3o_mw?w~m|m[rKmDKc&nim;
FpYm!B*p6r|tUmDmJn~ngo5nOCnp|Tcxxn<m|D=pipWp1movfnmBmLn7pvv3ByETm0n7nGv2v9nmpDBm2^]mYmDcpWr6ucnLcp=n7CvBnmm.PpMmsXx2oq
=_tn7mwn7o)yU&pYmQ=oIn7p<cn2vWrKEma_]mYohOnmCmt%=Fm!oCxEn7nGn(cpOmFrrmQoCmTWqhvWm2coXn)peqDmQ;TRmwKn7v)=FnNoCmLcmYGpdm
qn_omz!ng=m&oocmMm0n7uM~vnpF=nh=nPm;^]n,mJoJnWnSv6mhm$NniSo5nOTmXrKo2x2Kw~m.moq^Yx2rn%cm?n7Tr~SPnCmVpYpzcor(oCo9=r>nVr
6n(mlm]m|C=mhLKz!%n4n+~]yxqhEvWm2cqZ^]nVpdoUq^%r6tGmocm&|Rxkm:mFn7m;Fc%m|pLMmDT%pY&xj=ntnJS=mloOn7p<PmioCqZmDcoro?pYmC
m2c(qyCnmBnS|=rK!K x=nSrSmQoCnS$nicqYTn7^Cxvn7rnEnLr)!m0Y_3*pdmCr6ngGm2n7_|^sDrymwcn_OnmmlDYoC%nmBmVmFocqmmirK!KoCmVYr
K(=m.r>miUwkr)oTmTG=GqZ^]xxpXoO=o_omn7mTpL|J?Im0mEBnC^]mj(r6xT=WqSGcpS=m0vWm2pYsHmem0vWm2cm0tRn7Oomc|~rK(DqhsSq^|Ro=qh
~6ucnmoSS=Br~Tmfcm(nCqhmZTn7nlm|nPCI!mB(=x)nwDqSpXnUSnmnPmor6nCDn7!nmn2m2rKmg|RmgMv2Ym;oUocoTmOco!cnkBmqsem2YqhmqGcn[n
JDp6y.cmjT_jS=owp%n9O$p6~6&pYm!Tm0qhLs6ao8A.tCp]wHvBna ^OnlmF yTp+drDn9r*dn=n9t9n3p+drDn9t9n3ojdu+,m!mqomn>m!mqmwmEzJv
efojfrkfuurkg_FtNrkdo>mTse~RSPnlEmRu5bw6aDmVn9oyaJma*ni;(Dnhn[!n<nVn1s&tCp]ImF_smRuvn8qxbyDrTOz+vnvI_<vnvIz+oXvnvI_<oX
vnvIz+_&m2y4n?_&m2y4rkrU_&m2y4p+rU_&m2y4n=rawWn:~Fy4n?rawWn:~Fy4nJr>mIqxaoz?oyz+njn9m:pu_|y4n?njn9m:pu_|y4rkrUwWn:~Fy4
p+rUwWn:~Fy4rkrUnjn9m:pu_|y4p+rUnjn9m:pu_|y4rkyfpu_pvIap+yfpu_pvIrAo9;ySasyoXPm|M;^5aoXPm|M;^5atMoXPm|M;^5anJr>mIqx s2
HnNZnUUohn5m2mIuWnetCp]m0Vm;qDo+qxbyEn8x;qxbn2p!p3x;qxbm9mFn8x;qxaHnNnwu3m,opx;qxboXopx;qxrAo9nvySaqbKx0mQrn^>qxdumq8n
&o*,wAmEqxp8ny uupedumq8n&o*,wAmEqx uupep8ny tNpeay0nJr>mIqxatCp]nG~(p=o6vrtro*ug|vs&HnNZnUUohn5m2mI|?u%cy2aqbtCp]ImF_
sam^rSoyap!mJv^_satCp]rbpt (wqr<bvbnPp_v_nlneoPt5~6x0xo)qHmpndIy*z8y*=x2mpm]m]Krjr%ndGndKnbGvo=G~=m]Gm]SzY)mhqkIn7nbZU
n7=Zx2m]Zm]Tp[)mMcm.y*TnbTnbDnbT=D=Tm]mYn4pHIyin4vZm]w:q7)HndBndPndHnbBnbPnbw9B=P=Hm]mlpdm]sYMndMnbM=Mm]^_q+YqHmpYnbyF
y*_T_Ts4m|rynbmQ|bn7mkmB)uNw]vzzRNr)Uy*uqKnetjCx%otxd*A-t5~6x0q8n&o*,wAmEqxn7nkI-q8n&o*,wAmEqxaotxd*A-t5~6x0q8n&o*,wAm
EqxmbnkI-q8n&o*,wAmEqxat5~6x0ImF_sbq8n&meImF_sbpbp=o6YmDIaotxd*A-t5~6x0oXzupAm9aotxdx0xo)qHmpndIy*z8y*=x2mpm]m]Krjr%nd
GndKnbGvo=G~=m]Gm]SzY)mhqkIn7nbZUn7=Zx2m]Zm]Tp[)mMcm.y*TnbTnbDnbT=D=Tm]mYn4pHIyin4vZm]w:q7)HndBndPndHnbBnbPnbw9B=P=Hm]
mlpdm]sYMndMnbM=Mm]^_q+YqHmpYnbyFy*_T_Ts4m|rynbmQ|bn7mkmB)uNw]vzzRNr)Uy*uqK=VsTndpLq8bs.nDaotxd*A-t5~6x0r_oooz|:wAmEqx
aotxdx0ImF_sbq8n&meImF_sbpbp=o6zMn9pqztmlvKOn_yYBpdocqhp6pYn4_WpXqBcoxJxHcn)ZoxnLtUryqkoCn7c)m]=EHmsndEImsnbOnb~:p%nNc
vYcm2cndnbInbVn4GpXN_2oxOqEsxNNaoPHnNnwyYwPyqwPqBIuw-qaS|l|l-_(|l-wSoxvNpcyqvNv3r;_=wP_=MvC_=uA_=x.t%$prv6t%|8oxt%wSH~
K_ryquA_r-x.qaSyqx._koCxzyq_(cnLprnLcpkprKox$prv6|8oxwSoxql=q+p$=Em]=n|m]Y=m]uNpO=O=_TnbuMm]vzw]YnbEnbYndIbnPL_?brVSnN
Nw0|l-vNpc|l-qaS|l|)*x.t%wP-x.t%vNv3t%uA-x.t%P*x.t%n|mD(wSH~K-uA~K-qaS~K|)*x.vXn|wAMvC_r-wP_r-vNv3uA-v<wP_r-v<vNv3uA-_
(_r-$pr$qBman|wAuAqBman|wAo?nNuAcv<wPcv<Nw0cv<vNv3v<uAcv<_(pd*qaSyq_kcn|mhEr8cn|mhEr8-x.n|mhEr8|)*x.vXn|wA|8HyqwSoxn|m
D(wSoxs!-q+s!-p$=s!-ndyF-n|m]yF-Y=yF-nd%ya)%yaAneoPtCp]*pv?na ppKn8qxcq!;qxco+qxcutoycp^qxcoZoycp<oyocpZqxcysoyqhnCy!q
xn7Eu9mEqxcsqmEqxcoZ$oyco]m9oyq^%$oyoc*oyamlvKOn_yYBnbZndJndGnb^Cm9Ns7m]&NcnCcsHc(NcmwNcsFn4sXms(NmsmwNmsMcmUc_[c(NNbw
KmSPo[q(dHrhGoxLoxZYbwKmSGrhGWqBWs7=|PpsJKqc;nmWGcXGr6XGn7Wqqv]qqZGqqPqqZWGn7ZWGqqZnmHv]PqqPWGqqZWqqv]Zn4qqn7pdn7Pp6qq
ZqqGn7Zn7WZn7Tn7GpdDpdZpYNn7v]n7WGqqXWGqqv]ZGpdGxHpqC.otxdx0xoKnXmhn>nXn9oNnXrgHnRHnXxbnUp8nXzwm|urnXmQdmqaw7ZmeHnNnwr
^Iuw|lcvNv3r;~K_rcx._koCxzcnLprnLcpkprKox$prv6|8oxwSoxwP pHw0 )vN~z)r; y&vC q7qW )qamc)w0qrs<xz v$prnL )pkprKo6v7prrp)
|8o6)wSo6s<xz x<KmDEpC^OnlmF Op?wCobHx<oPszp=o6uW=z1yU&rrmQcpOmFrKvf^]m&T!q^%$n7mwn7n9m$cm(pLSy|nBp;n4n(x2rnCI!cn$_aI!
oC&orrOmTnas8BmD^sPwXmXoCmfn7rODYn7wGVm:=m9mFPyE=wXOm!C=mfI_a=FnimMV!^sr>n7m;F^sAnLay0szp=o6z:naqB(Dm2|Uz1n7|0qZqBOn9b
yDTp7&uirL=mrmXnv&uirL=sqz2&uirL=mnz2&uirL=y,z2&uirL=o|z2&uirLx2owmXnv&uirL=qJnv&ui_Kp!TNm2moIPqQy0yDmrmXnv^f=y2dy[nEb
HnNnwr^Iuw|lcvNv3r;~K_rcx._koCxzcnLprnLcpkprKox$prv6|8oxwSoxwP pHw0 )vN~z)r; y&vC q7qW )qamc)w0qrs<xz v$prnL )pkprKo6v
7prrp)|8o6)wSo6uLKmDEpC^OnlmFnWt2KnsJ^pUIbHnNnw w0qrUaKmDE*n<nVn1s&y0szp=o6uW=z1yU&rrmQcpOmFrKvf^]m&T!q^%$n7mwn7n9m$cm
(pLSy|nBp;n4n(x2rnCI!cn$_aI!oC&orrOmTnas8BmDn7Epfnmm^m0qhEm^m0n7UmVqwm0q^XCm;wWnmP|>Tmsqem9nacmVnkcwXnm^9YoCmDw)nmsEoC
mXmQcoUcm%nmm=nmo:C(=mQycI&n7rODYn7wGVm:=m9mFPyE=wXOm!C=mfI_avZmZTbyDy2,zLz|=mnp;d^f=y,p;atCp]nG~(r.o;y6 J*U%YetrBtG%Y
xI%nLemam|Lem^YeJmwq0JnwYeAuBnhTeqyP~BBm2ey|n9Bm2epvyPBm2en2CnkBm2o3_pHGbm2GbowanpMmVmenpqwoTmVYqQy0otxdx0xnnb=m]Kr%nd
Kvo~=m]S)mhn7Un7x2m]T)mMpYnbT=Tm]NpHIyin4vZm]nqHndHnbw9Hm]sYMndMnbM=Mm]q+Ynb_Ts4m|rynbmQ|brK)w]vzWOo3_pm2nnNn(;mQIpObm
aAAn9b%UHsub*rnuLA%x<(mix<(mMbU&bnis5UUmYbEEotuL&rSbOmUx<otIm|_0%oOn9_0%mDIIb|U&bG*m^bGmCuLGovI_0Ym!IIbGnCUnuuLtemqbte
mqxjmjs]_0nCwDEnjx<tem>oOn9bxjmjs]bxjv%pc&_0m!UZEImq_0Umq&tEoKnix<KmDmwuLKvfnJmbAyzm!Umb*mMsFUmbnCmiUmb^FmbmXObnunzx<n
2mhbDmDx<sfbN*Ob_tn9bm(mVx<q,nzmXObq,oOx<sk%m2x<s:nzUnjx<s:Km!x<s:zMbBnCx<HU%ngmYbHUImVObBnhSYm2x<Hm!*bmgKU?%x<PniO_1q
Ct5bHm2pcx<Pm9rSbrn~uIbp*E?bo&n9bBmDUn9bH&_1&mYbnUmDx<nU&bm^yzUmqbm^nCx<m^Hm(z.%s5x<zOSY&z.yzm!&z.Im|z.Im|sk%x<m&p4bm&
GoO&bm&Enjx<p$AmYbp$%x<yF*bRmVnjx<m|mjb~yIIbtGnKm!x<mQs]bRmXqVm9bWoOn9atCp]nG~(r.o;y6 nUm! rTOf&^Autfn~^AoZf^Pfo|fSowm
9fqJfxU^Az1fy8Vm9f_fnEfsq^zfoZ^zfy,^zfo|^zfSowmXxhfof^zfxUE^zfu%fu%-&^Au%-utfu%-n~^Au%-oZo3_pHq,bnubAx<ogbOV_1CbDMn7oq
o*oCnKo*bIx<m2nnNn(;mgzcnRSYrmW<?m:s!nXm&osImRmDPmDpt_1nnn(PvyNuLMq%uLm^bot_0Bz.Bb~wmR!_0s)_1FbNFz.q%FpXz.G_0GbHZbpkZz
.HZbGHZb$Zz.q%Lz.LbDL_0LbFMbNMbs]nTz.MmRM_0Mz.MrLo*mRMrLo*z.rLo*_0MrLo*z.MnWnKo*mRMnWnKo*z.nWnKo*_0MnWnKo*z. o>,rCoqo*
bq,_0q,z.q,bGq,bmj^]o>,rCoqo*_1vyNvys],z.vyPVbNVz.q%Vz.V_0Vz.V m&p4_1WbNWbs]mBz.W_0Wz.W m&p4_0 OHMz. OHMbn(bBQmRCmRDm
R o>r^GmRObDBbGYbm(bHPb(_0K_0MnWm)!_0TbLMbLNb~CbLXz.Bu<byBbo_LbpA_1M_1PM_1RmbRmbVbWBbV o>nTbnno>nTatCp]nG~(r.o;y6 nunv
&^Autfn~^AoZf^Pfo|fSowm9fqJfxU^Az1fy8Vm9f_fnEfsq^zfoZ^zfy,^zfo|^zfSowmXxhfof^zfxUE^zfu%fu%-&^Au%-utfu%-n~^Au%-oZfu%-^P
fu%-o|fu%-Sowm9fu%-qJfu%-xU^Ay2fy2-&neS_pG!ao89C0.mgXAquy6 ~)pfAmMoMo]r4mQrfPmMoM|;v6m.FnPCnwz2^>~)p*G(NmiwVrm$Fnw n_p
_~$pOmVmioC&Fv)nm~)%M~$nULDn8n9oz$m2y*?MmipYmQngmipdEnl=r>nVzxp_qhm;oUmoIv2pE^>nJo?nimh&yUn2Sp;ct7UmhnzMcn_LoUmirKmD
K py~)n2x)n|^]mar_AnLoC&~BPmTnar6mVn8$mquBoxorCx2oamVp3ma%nmmQsZc(pvCx==pE^>?Mmiocrm$nWqmm2p1pE^>PmQP&Dm2_a=~)qwYSM!mB
tQriLmin8nPmQc(FxTx==wimjna^sTmQ|RpE^>PmLm2pdmqpEo?p6nym9n8p|~)_I~)Fn(oT~$ntnJmhnas7Br>tGtDp6m;Im[_a=n2pfnz=(pfnz=q>sP
$mquBHoCmUn8sgm&~vp4$m2n8n9oz$m2pdzzn8m<vhcntPwXmh_]uDmBm;L^sq8xTnac~)x)nwDqSd%Onhn8$x]doKyxmi,mMp_nTwA?w~n2Vm;ntMmXc~
)M%r|n8m^sem9msBom_a=uDmBnVm2m2s9mXm0mB(Ddsos!pmmTK=m.SpMmh_]npMmVptc(NoATtG$y*PmQP&Dm2_a=sOmFnWmtm0na_3mn;Cmtm0napq52
nZ.|[,YtFBm,mV_2n)ndIv2nBnmnBn)I=nBPmsTmsn))masGOn)~+Unts7nmOn)m]ntq^n)=WnbBmVr6In)Bnd^7Pr6nBnmBnBn)^7=BnBPr6|Rskn)Btw
mar6u!n)x(m]x(ntcmlnmmln)mlcmlv2p*n)B=p*Pr6v3x(n)BnbBm<r6_gBm!r6YnmBYn)BYr6xVr6v4n)Bv4pdmVpdIn)Pnds:PpdnBn)s:=PnBPpd|R
q,n)Pq7mapdu!n)P~+PUntcnJnmnJn)Pm]nJPpdv3PUn)PnbPm<pd_gPm!pdYnmPYn)PYpdxVpdv4n)Pv4r6BmVr6^7n)~qndB^7Pr6BnBnm~qnBn)B^7=
~qnBPr6sknmBskn)~qtwBmar6Bu!n)Bx(m]Bx(ntr6mlnmBmln)Bmlr6mlPr6p*n)~q=Bp*Pr6Bv3Bx(n)~qnb~qm<r6B_g~qm!r6BYnm~qYn)~qYr6BxV
n4BmVn4^7t)^7n4^7Pn4BnBt)^7vZBnBPn4BoOn4skt)BpHBman4mlTn4mlt)mln4mlPn4Bpcn4x(t)x(n4Bm<n4Bm!t)Bm!n4BYTn4BYt)BYn4BxVn4Bv
4t)Bv4qqMmVqq^^ymMndH^^PqqMnBym^^=HMnBPqqm^nmHm^ymsYHMmaqqs]Oyms]m]Hs]ntqqo_nmHo_ymMm]HMntqqs]nmHs]ymMnbHMm<qqMm!ymMm!
qqMYymMYqqMxVqqMv4ymMv4ocmVocIn)Mnd^^PocnBn)^^=MnBv2m^nmm^n)sYMmaocu!nms]On)s]m]s]ntyUnmo_n)Mm]Mntcm&n)M=s]nms]n)MnbMm
<oc_gMm!ocYnmMYn)MYocxVqhmVrrn)nPrrPqh|RFAn)F_5macn_n)Fm]Fntqhv3FUn)FnbFm<qh_gFm!qhYnmFYn)FYqhxVr)mVcqLn)VndqLPr)nBnmV
nBn)qL=VnBPr)|RzQn)VsTmacq8nmq8n)Vm]VntcnEn)nEPr)v3VUn)VnbVm<r)_gVm!r)YnmVYn)VYr)xVr)v4n)Vv4p6mVcm.n)m.cm.v2m.En)m.=m.
Ev2nunmnun)Dp[map6u!n)wim]nDcmYn)mYcmYv2n2n)D=n2Pp6v3win)DnbDm<p6_gDm!cmMnmmMn)mMcmMv2mMEn)mM=mMEv2?nm?n)Tp5mapYu!nmrO
On)rOm]rOntcn9nmn9n)Tm]p<cnGn)T=nGPpYv3rOn)TnbTm<pY_gTm!cn.mVp6m.n)Dm.p6m.Pp6m.En)Dm.=Dm.yxp6nunmDnun)n.srmacn.u!n)n.~
+n.Untp6nDp6mYn)DmYp6mYPp6n2n)n.=Dn2v2n.v3n.Un)n.nbn.m<cn._gn.m!n4DmVn4m.t)m.n4m.Pn4m.Et)m.vZnuTn4nut)DpHDman4nDn4mYt)
mYn4mYPn4n2t)DvZn2Pn4Dpcn4wit)win4Dm<n4Dm!t)Dm!qqNmVqqNIymNndHNIPqqNnBnmHNnBymNI=HNnBPqqyCnmHyCymN)HNmaqqNu!ymN~+Hpvnm
HpvymNntqqr=ymN=Hr=PqqNpcn4mVn4It)In4IPn4nBt)IvZnBPn4At)pHman4u!t)~+NUntn4w$_jt)m]Nntn4Et)=r=Pn4pcyit)Un4m<n4m!t)m!qqs
[qqnpymLndH~|qqLnBymnp=HLnBPqqmTnmHmTymwTHmTPqqLu!ymxTm]HxTntqqnSymLm]HnSPqqm0ymm0qqm0PqqLv3HxTymLnbHLm<qqLm!ymLm!qqsS
nmHsSymsSqqsSPqqsSRymsSRcs[cnpn)Lndnpv2LnBnmLnBn)np=LnBPs8nmmTn)wTmTv2Lu!nmLu!n)xTm]xTntcnSnmnSn)Lm]nSv2m0n)m0cm0v2Lv3
xTn)LnbLm<_W_gLm!csSnmsSn)sScsSv2sSRn)sSRpXmVpXIn)GndyyPpXnBnmGnBn)yy=GnBv2p4nmp4n)yAmapXu!nmGu!n)xjm]xjntpXOnmx*n)Gm]
Gntcoznmozn)G=ozPpXv3xjn)GnbGm<pX_gGm!qBmVqBIn)KndtePqBnBn)te~=nBv2otnmotn)Kr%maqBu!n)K~+KUntqBOnmzMn)Km]KntcoKnmoKn)K
=oKPqBv3KUn)Kvom<qB_gKm!pXGmVpXyyn)sXndsXnBn)sXI=sXnBPpXp4nmGp4n)sXrjGmapXGu!nmsXu!n)sX~+sXUntpXx*nmsXOn)sXm]sXntpXozn
mGozn)sX=GozPpXGv3sXUn)sXnbsXm<pXG_gsXm!ocGnBn)Myy=Mp4nmMp4n)MGy&GmaocGu!n)Mxjm]Mxjntocx*nmMx*n)MGm]MGntocozn)MG=MozPo
cGv3Mxjn)MGnbMGm<ocG_gMGm!qqXmVqqrFymXndHrFPqqXnBnmHXnBymrF=HXnBPqqX|RHXAymX)HXmaqqXu!nmHXu!ymX~+HXUntqqXOnmHXOymXm]HX
ntqqXEymX=HXyxn4GnBt)yy=q2nBPn4GoOn4p4t)G|Aman4Gu!Tn4Gu!t)xjm]q2w$n4x*t)Gm]q2ntn4ozt)GvZozv2o2qqnBn)t5=m(nmm(n)nqHmaqq
u!nmHu!ym~+HUntcnUnmnUymm]nUv2mgn)w9mgv2pOnmpOn)uNWmarKu!n)W~+WUntrKOn)zRWntrKEn)vzuMPqkmVqkIn)ZndZIPqknBn)ZI=ZnBPqk|R
ZAn)ZzYmaqku!n)Z~+ZUntqkOnmZOn)Zm]ZntqkEn)Z=Zyxqkv3ZUn)ZnbZm<qk_gZm!qkYnmZYn)ZYqkxVqkv4n)Zv4oCmVoCIn)CndCIPoCnBnmCnBn)
CI=CnBPoC|Rx)n)Cs<maoCu!n)C~+CUntoCOnmCOn)Cm]^9oCEn)C=rfPoCv3CUn)CnbCm<oC_gs+oCYnmCYn)CYoCxVoCv4n)Cv4qkZmVqkZIn)v]ndv]
IPqkZnBnmv]nBn)v]I=v]nBPqkZ|Rv]An)v])v]maqkZOn)v]m]v]ntqkZEn)v]=v]yxqkZUn)v]nbv]m<qkZ_gv]m!qkZYnmv]Yn)v]YqkZxVqkZv4n)v
]v4n4ZmVn4ZIt)ZIn4ZIPn4ZnBt)ZIvZZnBPn4ZoOn4ZAt)ZpHZman4Zu!t)Z~+NZOt)Zntn4ZEt)ZvZZUt)ZUn4Zm<n4Zm!t)Zm!n4ZYTn4ZYt)ZYn4Zx
Vn4Zv4t)Zv4n7mVcmhn)mhcmhv2mhEn)mh=mhyxn7oO~[Xn7qHman7u!Xn7~+rSntn7w$n7OXn7m]Sntn7wRn7=qyPn7pcn7^qn7Un7m<n7m!Xn7m!n7YT
n7YXn7Yn7xVn7v4Xn7v4u?mVn7o|n7mhn7mhPn7mhwRn7mhx2mhyxu?oOu?AXu?z%mau?w$u?OXu?m]o?ntn7qyXu?=o?yxu?pcn7rSXn7rSu?m<u?YTu?
YXu?Yu?xVu?v4Xu?v4qkm(nmZm(n)Znq^~maqkHu!n)^~~+^~UntqknUnmZnUn)^~m]ZnUPqkmgnmz3n)Zw9z3PqkHv3^~Un)^~nb^~m<qkH_g^~m!qkzu
nmZzun)ZzuqkHxVqkHv4n)^~v4oCm(nmCm(n)nLv$macnLu!nmnLu!n)nL~+nLUntc|0nm|0n)nLm]nLntoCmgnmq]n)nL=q]v2nLUn)nLnbnLm<cnL_gn
Lm!cnLYnmnLYn)nL~$nLYv2nLv4n)nLv4rymjn)Rs4RtGOn)RtGm]RmqnmRmqn)Rmqry^IrymQnmRmQn)RmQrymQPrytGnmRtGn)RRnbR~yryR_gRRm!ry
r|nmRr|n)Rr|ryr|Pryr|Rn)Rr|Rn4mjTn4mjt)RpHp=n4mqt)mqn4^In4mQTn4mQt)mQn4mQPn4Rpcn4tGt)tGn4~yn4Rm!t)Rm!n4r|Tn4r|t)r|n4r|
Pn4r|Rt)r|RtU|RmoAn)moxYmatUu!n)mo~+moUnttUOnmmoOn)mom]mont~]T~]n)mo=wUPtUv3moUn)monbmom<tU_gmom!tUYnmmoYn)moYtUxVtUv4
n)mov4cmjnmmjn)s4p=ryu!n)tGm]tGnt|bnmmqn)mq|bv2mQn)mQ^sPryv3tGn)Rnb~yry_gRm!ryYnmr|n)r|ryxVryv4n)r|Rz!mVcy+n)Jndy+v2Jn
BnmJnBn)y+=JnBv2Ju!nmJu!n)J~+JUntcsonmson)Jm]Jntz!v3JUn)JnbJm<z!_gJm!z!YnmJYn)JYz!Yv2Jv4n)Jv4xHmVxHIn)QndQIv2QnBnmQnBn
)QI=QnBv2m_Onmm_On)m_m]m_ntxHOnmQOn)Qm]Qntcm_nmm_n)m_xHm<xH_gQm!xHYnmQYn)QYxHYv2Qv4n)Qv4z!JmVz!y+n)JJndJy+v2JJnBnmJJnB
n)Jy+=JJnBv2JJu!n)JJ~+JJUntz!sonmJson)JJm]JJntz!Jv3JJUn)JJnbJJm<z!J_gJJm!z!JYnmJJYn)JJYz!JxVn4JmVn4y+t)y+n4y+Pn4JnBTn4
JnBt)y+vZJnBPn4Ju!t)J~+NsoTn4sot)Jm]NJntn4JUt)JUn4Jm<n4Jm!t)Jm!n4JYTn4JYt)JYn4JxVn4Jv4t)Jv4n4YmVn4|[t)|[n4|[Pn4YnBTn4Y
nBt)|[vZYnBPn4Yu!t)yFm]NyFntn4s!Tn4s!t)_Ty_ntn4Ypcn4yFt)yFn4Ym<cXmVcrFn)XndrFv2XnBnmXnBn)rF=XnBv2Xu!n)X~+XOnmXOn)Xm]Xn
tcXYnmXYn)X~$XYv2Xv4n)Xv4wVmVwVIn)Ynd|[v2YnBnmYnBn)|[=YnBv2Yu!nmYu!n)yFm]yFntcs!nms!n)_TYntwVv3yFn)YnbYm<wV_gYm!wVYnmY
Yn)YYwVYv2Yv4n)Yv4q3whmjwqmIQOnmLndKmVn4|[PoCxVn7mhpXGntcozPocndHXmVcsSRr6Bv3MntwVm]Pv3HX~+?nmGzYm<oCYnmn.m!r6m!pXxjm]
y_ntpYnbntz!Jv3ZOnmPYnmHMm]YmVr)m!tU~$nEPqkrqm]NZm<z!JYpXOnmJy+=zRDnbmom!cnp=CYoCUntoCIPqqXnttU|RZm!tUntcnL=v]nBTn4^7~
=ne+~oLm:q%mSBq7q7nqDx_rjr%wwJs<v$p[Zp5Sp5moy&pH)Lu]ZnqZ|A)nqX)HnqF)uNmo)q+Gnqql==Enbndm]z8=UoxO=x;MYnnmMoNnnnJp8p$nWY
olmlu2olp?x<w%nWmUsYw6azQI,YtFBm,^CEp%mg=uM=uMm9pd^CBmg=p*=Mp*~=rn=MGp*=Gp*=tr=nE=nG=uD=Dmg=DHmg=m0=mQ=n2vZn2=qy=wU=Z^
Cz3=rf=p?vZp?=n|=oK=q2oz=oz=m&=r=vZn|=nd(qqndH(rKndW(pdndBHndBndMBndKPndM~wnd~wndnPr)ndmMc$ndDHndDHHndLndm|cm.n4m.cmht
UndZnd^~ndCndy+n4JndYndten4sXndGnd^^n4In4Ynd)*n4G~:nqH*rK)W*pdtww:y&Br%Pr%P*oc~wrjB_5sTytnqDHnqwTRp[pHDu]mozYzYnqCrqpH
J)q+Kr%*n4sXrjy&pHpHq+vJO_]nUm]WvJWO_]nJm]BnUm]mlm]Mmlm]KnJm]MGmlm]Gmlm]n_m]q8m]n9m]pwm]DnUm]DHnUm]nSm]mqm]mYm]NmYm]Sv
JmovJZvJZnUm]CvJsom]Nsom]s!m]KvJq2GvJGvJo_m]pvm]Ns!m]nbmwqqnbHmwrKnbWmwpdnbBHnbBnbMBvoPnbM~wnb~wnbFnbVnbTnb$nbDHnbDHHn
bLnbRnbwin4win7nbmonbZnb^~nbCnbJUn4JnbYvoUn4sXnbGnbs]yin4Ynbm]&n4G&qqm]H&rKm]W&pdm]BHm]mlocmlqBPm]MGmlpXmlpXB&qhm]Vm]T
m]$m]DHm]DHHm]Lm]mqcmYn4mYn7m]mom]Zm]^~m]Cm]Jm]NJm]_TKm]q2Gm]Gm]Mm]Nm]y_m]=m9n4Gp%w9Hp%vzWm9pd=Bw9B=MB~=P~=Pm9oc~w=~w=
~wp%F=pLT=$=Dw9DHw9m0^sp6vZDx2=mo=Z=Zw9C=JvZJ=Y~==q2G=q2Gm9pX=Gm9ocvZvZY=q2c_$m9m2mRu5bw6b_!mbYtFBm,NmYm,F<uqSvfmbo4 t
rvYcoKvYpYmin4t]BnNqhA)?p[nNcmY_[qBr8pY_[cmY-m]J_[bwNEmbYtFBm,NmYm,tfmYao8wQCYm|Lv)^YZnkLp$[ZnkLp$]v1m;O[v1m;O]syv1E[s
yv1E]^([^(]DJm2V[DJm2V]v[qVp=o6s5[v[qVp=o6s5]BmqupwDp4[BmqupwDp4]r=pcRmIYm2[r=pcRmIYm2]Ym2t6z]yvm2[Ym2t6z]yvm2]tSmMxrY
oO[tSmMxrYoO]syyF[syyF]tSmMxrA[tSmMxrA]Cy?zlYnh[Cy?zlYnh]BwWDmeYnh[BwWDmeYnh]tSmMxrCy?zlYnh[tSmMxrCy?zlYnh]^|[^|]syTqy
[syTqy^xoJmJn2xqoJmJn2^xoJmJm;xqoJmJm;^xoJmJnkxqoJmJnk]v[y|vpO[v[y|vpO]sJy|vpO[sJy|vpO]oXv[y|vpO[oXv[y|vpOrhMnwmMy|vpO
psx%CYm|Lv) VZm&nmz1nToTnp&SnMc^VyBnp&SnMcq9n3yBnp&SnMo3mTV&p]vupsx%CYm|Lv)yYs5mjovpCI>nRYwIHn1nMrPm2nXSoJTnMdwDGr%o9Y
Kq7o)m2nrpsYm|Lv)r^o9Yot_1o)m2nr]DuM[DuM]v1uM[v1uM]^~uM[^~uM]Cq][Cq]]v1ZE[v1ZE]nG_dod[nG_dod]mrE[mrE]tTuM[tTuM]To?E[To
?E]Tq][Tq]]HuM[HuM^xHuMxqHuM]oXO[oXO]vxmeO[vxmeOzT|GmSCYm|Lv) Hn1nMn>oJTnMpsx%CYm|Lv)yYEFdtSmMxrneBn(n5yYr%)vonb^CmQ=?
=m]y_ndndLq7)m|ndrd=m0E^Cm&E^C?pHnupHJAnkocn7UnbMnbmot]mh~]^qn7EUn)Kn|~=n+n4suvZUn4Jsu=s!QtUnbyFQwVpHmo)oKUn)rnUt)p?vZ
nG=PU=WU=rn=tr=RnbLnb^^n4ndmQUn)mj~=m9n4GKpOm9n4sX|AxYm]Psu=FnbFmUrKpH)LndPndnSQqBm]MBp%Rm9ocm9oc)mMqBndMm]Msk)nGnmKPp
5m9n4rOUn7n(B_5AAm^=zMVUvoqVHmUmRx%qxr^OQND&o[s5W^FvyNJAnknpbw6mRvgmRu5mbnkn&vgb_!pq~no_|GmSnL(ni;x;Ys$Pmiz$nNyumiz$(z
ZnNz$nNzZnNz$s$m_z$nN m_z$s$RplYnN Rnb|Smj-xf|nx;ogqqmZ |nx;ogocImE|nx;ogctM|nx;ogq^q&mj-tM|nx;ogq^q&mj-xf|nv(S~BqDo+o
gqqmZ |nv(S~BqDo+ogocImE|nv(S~BqDo+ogctM|nv(S~BqDo+ogq^q&mj-tM|nv(S~BqDo+ogq^q&mj-xfv(S~BqDo+ogqqmZ v(S~BqDo+ogocImEv(
S~BqDo+ogctMv(S~BqDo+ogq^q&mj-tMv(S~BqDo+ogcopx~n>|gdvSogctNn?_&oAnNm0c~frHm?dssm?d_%q)duT_%q)ctMuT_%q)n7TmQu.n3sEqD&q
0oUqD&neu|^YEGxVn9~C_nr2[EGxVn9~C_nr2]EGxVn9~C_nA([EGxVn9~C_nA(]HvY[HvY]TZ[TZ]TmQmhLnS[TmQmhLnS]Csun[LnS[Csun[LnS]Csun
[LnS:^[[Csun[LnS:^[b^ZFrC]AA[AA]AO[AO]~p[~p]o9[o9]o9:vSog[o9:vSog]o)[o)]syCz&[syCz&~^vl|mvl~^:v&!r9|m:v&!r9~^u=;n3v&!r
9|mu=;n3v&!r9]BmqKp7L[BmqKp7L]L:sEr9[L:sEr9^Mxxqc;~L^Lxxqc;~L^MnSnt^LnSnt]vf[vf]Pu=;$mquBo6xQ[Pu=;$mquBo6xQ]P:wjm!wk[P
:wjm!wk]Px>m_nCmQL s%[Px>m_nCmQL s%]Qu=;$mquBo6xQ[Qu=;$mquBo6xQ]Q:v&!r9[Q:v&!r9]R mqTmwnu[R mqTmwnu]y. mqTmwnu[y. mqTm
wnu]V:v&!r9[V:v&!r9]VY[VY]Vm:mCO$p]Z[Vm:mCO$p]Z]$qmvl[$qmvl]$qmu=;$mquBo6xQ[$qmu=;$mquBo6xQ]VsQ[VsQ]n+[n+]m:[m:]u9[u9z
T|GmSnhau|^$Dn5ron5p8n5oNn5urn5b^Zy.[Tn5dn5]~1vpD[~1vpD]~1vpF[~1vpF]~1vpGo[~S~1vpG[u^~1vpG]u^L[u^L]~1vpR[~1vpR]~1~F,[~
1~F,]~1~FqD[~1~FqDzT|GmSoUuIs0 ykoCvgtUmDmJz~qQu|uHrV!qFnSxq!qFnS]u^H[L:xRokBm;TbrV(O~C_nnD]N_7[N_7]C:og[C:ogf^edpP^e]
B:wjm!wk[B:wjm!wk]Fvl[Fvl]VoLPs5 ya[VoLPs5 ya]VoLPs5 OE[VoLPs5 OE]VoLPs5 ^p[VoLPs5 ^p]G:|WnpyOr9[G:|WnpyOr9~^:|WnpyOr9
|m:|WnpyOr9]N:|WnpyOr9[N:|WnpyOr9]R:|WnpyOr9[R:|WnpyOr9^x:|WnpyOr9xq:|WnpyOr9]pPoddsyw2>qjx$Gro:Bm;Tn>mps*Ib^ZQ]u^Kwmd
J:vxo*-s%dnLnRp*?[p*?]wDp4[wDp4]Uvl[Uvl]G^+mIA[G^+mIA]G^+mII[G^+mII]G^+mIU[G^+mIU]vTnJnptVO[vTnJnptVO]nNv)*AmB[nNv)*Am
B]C:^en>uPtz:^etIx>oSTqc;~L[Dx>oSTqc;~L^xx>oSTqc;~Lxqx>oSTqc;~Lq3zts*mSCy?~1vpG[Cy?~1vpGw_oX$qmeoPW^|N]M~M,COtT,[M~M,C
OtT,^xmCo_se,xqmCo_se,ao8~no_|GmSs*C^tzVau|^YsyvbH[syvbHbyxmCr.p]rVr5Wo)mcIzT|GmSs*Hu=x2mpzrOnet.s$^Zu^MbyxmCr.p]mSsyF
ePduTMdo%xx<xgn&nTo3YnSmMohpTm|yY<In7m~^;Vm:pK)mSnX>m]_R m(SyH)mSKnsKnUs9nsGHm]_R u~)mSCnsnLnsJnsJnUo[n9o[$nsDmYdn.~_n
9d$nsmYtInUoNnsnJt*~_mlpFnUp8nsmqdnSurmqn>nsHm]r!olp:plq0vJnJn+r|oyqip8nyqPp8nysjp8nysdn7m~ xA;m(S*?pqwhu1rp(wq|(mjt
D o+vQepedp^vQsp&puzLnGt7exwdn~puzLnGt7p1vQoypdmTrfnULDm2oyrym<E;qxcm_*mMp;oypqywx:GnfPnnmSKwwG|A^XpHYytpHq7yVy&p5Sp5m
op[Z)uNZnqZqHmp)wvwTmou]nqxnnb=m]Q)X_5rjG)EEmbnKvtmemPmB<p$rhqex^srpHN)xA;q+q8n&y8o?,nqq8n&menqnzs:mjnOFAmbnKvtmemSmjm
bwGnPXmemSmjrhCzpwimbmim,z(qxboXz(qxbqxt0^]rut0Dpq~nS~pmjmo^op)|z%p4rh~hvFurRrodp_c=^CxCm]vfmsvo|$|M|.q7~g|VxY|LnqtFmR
&^nyHp)m(%UtH^dvFu;Rt+ep_d>EzGnsvfnc~.y;sYCzpwiq3~n^juLoX^juLwNne+ywCx%n2V*pT%o%sWns^f=mS<nXuqN<P<zwqLn7m~ o9Aorm(an2V
*pT%InMv_nln8C_.nbC_.q%y;sYoXC_.q%y;sYC_.q%vmw<o9AornqPzzs:otbGma nPL_?mR%n+bo=r>mqoKrz,o^t2bJAs$mUrho)tHo)aotp$o6np s
Wns^f=mSuqpkyg<q2_e<zbZwps_ueHueN<P<pA<tfDt8<zws_mTv+<~0rgV<C<<O>nRvJqd U>>nX_Pm]x;PnSpAnXs)YolPnSpAUn7m~nWWnRmop$amQJ
nNyYKrj|Ap5p[pHq7tw)sYCrqpHYu]s4wTq+uNnqMBpHsXpHDpHYJqltHwIzG_QnXEnXEAmR&^nyHnMohGoNurdHby;m^q3B.qyCq)aHnNnw |0qy&qrvN
Un^MvCcvNUn^uAcvNUn^x.vNUn^_(_=wP_=o?nNwP_=vNv3t%o?nNvNv3t%MvC_=uA_=o?nNuA_=vXn|wAuA_=x.t%_(_=pkprpk~K-wP~K-vNv3MvC-x.
uA-v<$pr$_r-pkprKoxuA-wSHyqv<uAc_k-r;c_k-wSHyq_(-wSHyq$prv6|8H-wSoxwSH-qaSyqn|mD(wSHpqwhJo9*niEp)P*YnNG)rfCsPs8Y%rKm~Y
*rh)o%otw]ndt]nbq,nWm2tRn4Gnnm0mOemjSpOm.c=xCm]uqSnzsPp8m!Drjxam!D|As<xam!DrqpHp$nTm!Drqnnm^HmaucpHYp5uem^Hmaucsr<m^Hm
aucpHAnTm!Dp5xam!Dp[<m^HmaucpHq7xam!Dtwxam!D)sYq+zwpTr8cwTWqHAnTm!D<m^Hmaucu]m(rznWECsPqDm;UtHT%r8dn9xxv+nwplm&npKn>s5
plMsQpco[!midm.Rp4nTUmQdrnPn+mR&^nyHp)Km2n+t*vYK!risPmj_1nNK&y%Rm2m9sX*xGRm2m9sX*_1ngnnnVmacm^Dq+xTHm!rK(DnbPnNotnmLmi
S)Lr8mhmsn2Gncn2Gpdm:y8Hbu^PngnnPm:y8H_VPnNRnNoKPbwNE~RPngnnmMR?qDUm&nGp1m:m9-m:m9~%Y*Mq|rVHpCGrgnL~5rgNNt8m(rzzZ*,|Qb
o_|GrVHpCmQDm<v)ptrh?o%mTn8y_olFolGolGm(eJolJm(v.nuen.m(u2NuL?o%mTn8sWs3&q0mrs3n~q0oZe^Peo|rCowm9eqJu2(Erh?o%mTn8tFenu
v.m(usolBm(aoPCt2yYxnnb=xCm]K_+U=q2v$v$nqJ_vHUvZrZHJ^aUvZsrq7q7P^)s]=sY~q)wv|V|Lm(tHzEnREwIO>_QnRAnX^pmR&^nyHp)s_zwmTd
pOq3~omSwKKs9oNGmR&^nyHp)wKq2rhwKnLo[oNt*rPurron>SmR&^nyHp)wKMeHw4wNEw4w%v_nC!p6nV)oX^j)yW^jA~%Y*Mq|mSKt2mMvv<C<nL~5~5
rgNs_qe<T~0n.<n.rgDrgN_e<rgHrgFuLo_|GmSKt2mM mQDm<v)ptrhKt2mM X<Z<mjbnSx*qur^t2mM Oo)zVNdHMmbo4 AmVpy_%nads;utrhAmVpym
julq,obK%p7Tr~?o%mTn8|C2e|C5brVHW;wBAr8nWm(emoAa?o%VnBmJmSoUr^nssEr^nsoUr^~_sEr^~_tMpk~_xfpk~_tMGnssEvvnsoUohGnssEohGn
soUnWnssEnWnstMnLnsxfnLnsoU,nssE,nsoUohYnssEohYnstMmYdxfmYdtMn9dxfn9dtM$nsxf$nsoUohnssEohnstMmldxfmldtMnJdxfnJdtMP~_xf
P~_tMFnsxfFnsoUnTnssEnTnstMYnsxfYnstMmqdxfmqdtMnSdxfnSdtMVnsxfVnstM~_xf~_tMnsxfm]m^o%KnNcqd vHnRU>nX>m]m^o%Ko2cqd I<^p
<U<~p>o)d*ncMpYo+m^o%tRu2UvYepwrC_[co8~nSo4r^&oNUvYn>n(dnU nUnRzMo%zMIam&EnGo%m^n|KyY>nsnLwps_qe<T~0n.<n.rgNN<zbo?)r!I
p:UplAAp:AplAAnbq]Ipk*msHnN pkUnuMc*y+n7YtFBm,mQrnmMq)rKmDmEmQrnmMq)cr!Vm:r3)y;m^pqA.^kIntn&,YtFBm,T$nbT$ndT$Ap5uD=T$=
T$m]tjn.Hnbn.Hndn.m(srmg=n.w9n.Hm]tjv1nbv1ndv1Ap[Z^Cv1=v1m]+~oCnLnqCnLHnbCnLHndCnLm(s<nLmg=CnLw9CnLHm]oP~qtwBnb~qndBsk
twp*=~q=BmlaoPu|^$ogx1!pA<nnq!o*-SnLW<o!mS>ogx1>qpwjm!wkdwWImcFn>Cx$G:vxo*-s%ro:uTmTZY,foXs.w5fs.wlp8:vxo*-s%oN:vxo*-s
%dvY:vxo*-s%do!mSOfsvqc>w2Ou=>uTO>u^OEvlgqvr9eobv*-Ogsvqc>zxRRrHRb^ZR:n?~([RmHrmmJpWm0doXRur:vxo*-s%doXR:vxo*-s%n>Cx$R
fumwlpFnzm;(;zIdUx>oSmJn?~(eogx>oSmJn?~(dUnRu^UnRt6n=oddnLp:umtMn?wlgrk,m2u,^E:tMn?wlft|n=~(in3tMn?wlisv,m2u,rPx>oSmJn
?~(zT|FnHmQnE:uTxMbxoHvYro:uTmTZY,fs.qF~st6n=odau|parVsPm(yvoOdtSmMxr>w2O>UnsuT!x:a|9 ^ZwDp4au|^$v1 pbp=pPxRo[mcpbp=pP
xRo[~SR_dw5zT|GxosZo*mBcn=yMcn?yMpqwQnLm2nrEE^$<>nRnsnXVs9<uqG>GnRGnsGnXGVdrgxbHnR~_HnXHVdmTdm0ronRnSronXLVp8xaza^QnsM
~D<HNwp|PoNwYnRNnsN~DVdm_<m_>m_nRm_nsm_nXm_Vn>_en>>mhn>nsSnXSVtI<ue~sT>m.dmMdmYtInXDVtImTo[mTo[m0o[LnRTnSo[LnXTLVo[S<t
T>Tmho[SnstTnXtTVv+<W>WnRWnsWnXWVdp$am&EnGo%m^n|KyYKnrn>n(dmT^QmVt*wp<nLoTdqFq(nUnXq2OnXpwnXpOnRYnNdHs5dmwdnRPt2ncmMs_
GnrdJt2dmjnRB~5oTdm.Ls9nUnXDnUnXBt2q(nr ooSn5dmTo%ooSn5p8qUooSn5t*nnooSn5oNnnooSn5dqF ooSn5oNx*q%ooSn5do%ooSn5cr!&mae(
mae*maz$m9marCwAmaemwmaeq](mau2r8oCmgyzmgndLn5 In|Kcmamw In|KctjsWns^fne+2~qywHnNnw Jr8qy&qr_)n|m]_)_)nds!-)s!-A=s!-Em
]U-n|m]U-I-ndyF-A=yF-m]EU-)EU-Em]EU-=EU-m]I-p$-m]I-p$=I-n|m]I-Y=I-_)ndI-_TI-YnbI-nd%yaA-)%yaA-E~RJ_[qy_[ohw0-r;|l-nLpr
nLyqvNpcyqvNUn^uAcvNUn^uAcvNUn^x.vNUn^v<wPcvNUn^_(cvNUn^nLprnLcvNUn^$prv6t%o?nNwP_=wP-wSHyqt%pkprKoxt%MvC-wSoxt%uA-vNv
3t%uA-|8oxt%n|mhEr8_=n|mD(wSH-wSoxvXn|wAr;~K-Nw0~K-o?nNNw0yqMvC~K-uA-qaS~K-_(_r-vNv3uA-t%|8oxuA-MvCyquA_r-v<vNv3uA-_(_
r-nLprnLcv<MvCcv<vXn|wAuAyqv<wPyqv<vNv3v<P*x.v<_(cv<nLprnLcv<$prv6v<wSoxP*v<uApd*v<vXn|wAuAcn|mhEr8-MvCcn|mhEr8-wSHoCx
z-uAoCxz-o?nNuAyq_(c|8H-x.|8H-$pr$pqyZo..u|pazr|Tvi^tL^tnP^tFLdxx,qDn>TpqC.%MqC*pazrMm9ohmLxXnLe(nRnEWohmLp8p7XEHpqztm
gq>WyYs!D:t5m|Qbo&mJJUn2_)SP*ItVrbotbzrYsem.tVs!mEs!mEq,?Hrhv^AmMoMo)(rKse;r2dnumOdxbotFdmT_hdwK_idmQmod?Vcv^AmMoMw=nM
tU(x>Hs$nDrCs$nDenuoztVnVzZs$nDgSs$nDmsm%:q,?u*QAm^tTxImaIQr6n+:nuxypXI_9:nuxycnumO:nuxycmg:MmaIQr)o9:nuxyqko)(:nuxy~&
nGT:nuxycs!D:nuxycwKotF:nuxyyGF:nuxys8_h:nuxy~&_i:nuxy~&Nmw:nuxy~[m&KpPnuxy~&wKPqpnuxypdqpnuxy~&tTAm.:nuxyxHoJ:nuxy^sm
o:nuxytU(:nuxyc?V:nuxyr)o9:nUv8r6n+:mjF=otF:mjF=PqpmjFtEzrr2 mT_hazXp]mSr2mBnzmT tooR_3Er:w[pdEr:w[_3mgr:w[pYnGmgr:w[c
nGmgr:w[pYnGr:w[cnEr:w[pdEmgr:w[p6_ow[n4_ow[pYq]r:w[pYq]mgr:w[p6nuHmIoYuCcnuHmIoYuCp6nw|NuCcn.mIoYuCcp?r:uCrymQr:uCcoK
mgr:w[cp4F|Nw[pX^pr:w[n4x*Er:w[_jpyGHmwNnntooRrypvpyoYw[cmgpPn|o6rDoYgoRs9OmItouyvqs1dmYnlm(mom&;touyvqs1cn|HrQmQ;touy
um_zrDoYhoRmbo4 op~Eojcwu^Sojcx+^Sojeq4r&oWgojct4rl^SojcoXx~r*cwuonmfnvoWfojrymiy*?o6^SojrKnzmTvebo80.mSq2|Nw[cq%oYuCs
7;oYuCwVq%oYuCsG:_zrDoYcoMoYuCqBnCGHos O;tooRrPq%tooRc;oYw[sGmZm! otZsPo6KnCGHos u0p2hs1bzrn|pP_zoW:r2|NioRhA;oYioRhx|
|NioRhq%oYioRhO;oYioRhYq%oYioRh;oYioRip2sGmZm!r^nCGHos n|pP_zoW:u0oYloRlp2rhF%mh _oeuyvqs1bzrn|pP_zoW:vsoYhz,hq.oYhu0o
Yh_o_3pPvstoz,q_z,eq.tou0to_ocnGpPvstoz,q_z,eq.tou0to_ocuDpPvstoq.tou0to_oc^%z,eq.oYcwEvstoq.oYqBwEvstoz,eq.oYn7xh:vst
oz,q_z,eq.oYn7ng:z,eq.oYp6ng:vstoz,q_z,eq.oYc?pPz,eq.oYqkApPq.oYms(:vstoq.oYpXm((:vstoq.oYqhEpPvstoz,q_z,eq.tou0to_oxH
sO:z,eq.tou0to_oyGF:r2 tovstoz,q_z,ev8 toq.tou0to_os8M:vstoz,q_z,eq.tou0to_ocxpvstoz,q_z,eq.tou0to_o_js~vstoz,q_z,eq.t
ou0to_ocmgpPvstoq.tou0to_ocn|pPvstoz,q_z,eq.tou0to_oc$!x>wGqjx$r2|N^sHx>wGqjx$r2|Nmsm%tqmjx>wGqjx$r2|NtUngnu:nuM_~pCoY
q_nzmjTpCtoFvWnntonuMm^|Nq_nzr?oYrCwGqjx$r2|Ncn|pP_zoW:mQsnhZAs$oRhq.oRhpvpyoRhu0oRhux_3pPmQsnwnAs$uyq.uypvpyuy|EuxcnG
pPmQsnwnAs$uyq.uypvpyuy|EuxcuDpPmQsnwnAs$uyq.uypvpyuy|EuxqhEpP|EuxxHsO:|EuxyGF:r2 uyv8 uyq.uy|Euxs8M:q.uy|Euxcxpr2 uyq
.oR_js~mQsnwnAs$uyq.uypvpyuy|Euxmsm%tqmjx>wGqjx$r2 oRcn|pPmQsnwnAs$uyq.uypvpyuy|Euxe_zoW:vsp2hx4p2hKx4p2h^Whmgo6p2_3pP
vsvqx4p2q_x4vqq.vqmgo6p2cnGpPvsvqx4p2q_x4vqq.vqmgo6p2cuDpP^Wc^%x4vq^WcwEvsvq^WqBwEvsvq^Wn7xh:vsvqx4p2q_x4vq^Wn7ng:x4p2
q_x4vq^Wp6ng:vsvqx4p2q_x4vq^Wc?pPx4p2qkApP^Wms(:vsvq^WpXm((:vsvq^WqhEpPvsvqx4p2q_x4vq^WxHsO:x4vq^WyGF:vsvqx4p2q_x4vqv
8 vq^Ws8M:vsvqx4p2q_x4vqq.vqmgo6p2cxpvsvqx4p2q_x4vq^W_js~vsvqx4p2q_x4vqq.vqmgo6p2cmgpPvsvq^WrCwGqjx$r2 p2cn|pPvsvqx4p2
q_x4vqq.vqmgo6vq_zoW:q.s1hmgo6s1_3pPq.s1emgo6s1cnGpPq.s1emgo6s1cuDpPq.s1emgo6s1n7xh:q.s1emgo6s1~]m9:q.s1emgo6s1yGF:v
8 s1eq.s1s8M:q.s1_js~q.s1emgo6s1cn|pPq.s1emgo6s1tUngnu:FvWnns1enuMm^ s1q_nzr?s1c?pPu0to_oms(:u0to_opXm((:u0to_on7xh:u0
to_o~]m9:u0to_ocwEu0to_oc^%u0to_oqBwEu0to_on7ng:u0to_op6ng:u0to_o~]m9:vstoz,q_z,eq.tomQr:n7xh:mQr:n7ng:mQr:p6ng:mQr:c?
pP|Euxms(:|EuxpXm((:|Euxn7xh:|Eux~]m9:|EuxcwE|Euxc^%|EuxqBwE|Euxn7ng:|Euxp6ng:|Eux~]m9:vsuym(snq_m(sneq.uymQsnn7xh:mQs
nn7ng:mQsnp6ng:mQsn~]m9:vsvqx4p2q_x4vq^Wn7xh:mgo6p2~]m9:mgo6p2c?pP^Wn7xh:vss1ex4s1q_x4s1~]m9:vss1ex4s1q_x4s1c?pPq.s1qk
ApPq.s1msm%:FvWoOpCoRfoYaqmoO;n=w7vyn?w7oizXp]zrmjt5m^Hq%!mTAoxmjm. !mT|Pq%*u**m(ol*Hn5e*HUm^ol*HmwNqHmf!mT|Pq%!o)t5mB
A-A!Iox!o)Ho%AnfS!An(c!o)HsF AnfS!An(c!o)t5m^nnAnfS!An(c!o)Ho%AnfS!AoOUmBAnfS!An(cm_Dm.SA,nCmjHn7mf!mTHq%!o)t5mBAA!Img
EmBA-S!v8c!o)m(nnAnfS!An(c?sk%AotmBA-?A!A)mjt5m^Hn5 !mTAoxnGpP^%q.vqwEvsoRhp2g^Wq_wEq.vqxpvsp2gx4p2gKx4p2c^%xpm(snhp2c
wExpuxgu0oRn7xh:wEvsvq^%x4p2g|Expm(snhp2gvsp2gq.oRhp2n7ng:wEm(snhvqxpq.oR~]m9:wEq.oRhvq^%uxexpzNsnhp2gq.oRhp2p6ng:wEu0
oRq_wEq.oRhp2c?pPxpm(snhp2g^Wguxms(:^%q.uyxpq.oRhp2gu0oRpXm((:xpq.oRguxgu0oRqhEpPKwEq.oRhp2xHsO:xpm(sngq.oRs8M:wEq.oRg
uxg|E^%vsp2hoRq_wEq.oRhvqxpm(snhp2cxpwEvsp2g^Wguxe^%x4p2g^Wq_wEvsp2gq.vqtj^%Kx4p2cmgpPxpvsp2g^W_js~wE^Wg|E^%q.oRhp2g|E
xpuxgu0oRcn|pPxpq.oRhp2_3pPKwEuxcnGpP^%uxgu0oRq_wEuxg|Expuxgu0oRc^%xpuxewE|Expu0oRn7xh:KwEu0oRn7ng:wEux~]m9:wEuxp6ng:w
Euxs8M:^%uxexpuxcn|pPwEuxe^%uxexpuxcxpxpuxxHsO:xpux_js~wEuxxHsO:xpx4p2s8M:wE^Wms(:xpuxyGF:xpux_js~^%x4p2cxpKwEuxs8M:^%
^WyGF:xpq.oRs8M:^%q.oR_js~^%m(snc^%wEuxcwE^%uxcxp^%uxqhEpPxpux_3pPwEuxyGF:xp^Wms(:^%^Wn7ng:xp^Wn7xh:KwEux_js~^%uxc+^=S
!An(UHq%!o)yC)+20.S!mT nhmeAmcKmD*n&slp)oYxH!nnnhmeAmcKmD*n&slp)oYc!mTr:msKog|NyUt2m^mEoYn7!n(|NcmjSOnw|Nc!o)H;oYrKnz!
v8|Nn7!mT|Nn7mf!mTnUq%!o)mgmBnz!v8z!!mTJ!!rmnUUam|!qQzXp]zrBm:yBmTo6%-mjHMpC%-mjmgnkn7nKm(*|PUmBnn?A!Aqlv]AmBnnJmfarbp
tugoD1t3oH3oH4oH5oH6oH7oH8oH9r00r01oHpIr03r04r05r06u:wXmXpt mvy6 qb^[etCn&nWu5fw6eCvgrCnkn&vge_%q)e_!erkrUwWn:~FtWep+r
UwWn:~FnHmjKCn+evSm;npp(oi+ywCx%zrn=pecn?peboXxen=pedn?pebsmRpyn=pecn?pemR&vtn8s?bzrn=per*cn?pe|yxen=per*cn?pe|ysmRpyn
=per*cn?per*mR&vtn8s?r*mRYm|Lv) mMTnS n=pedn?peu:wXmXpt mvy6 qbpiopm0ngm2epNySep7ySetMppq0Wo9nvtMppq0n=w7udn?w7udn=s+s
StWen?s+sStWen=njn9m:pu_|tWen?njn9m:pu_|tWen=rawWn:~FtWen?rawWn:~FtWen=oXvnvIen?oXvnvIen=vnvIen?vnvIen=_&m2tWen?_&m2tW
erkrU_&m2tWep+rU_&m2tWo3nin(;nDrAo2punin(;nDu:wXmXpt mvy6 qbrk~bep+~baySmeo>ppnetdmQvro>ppneWo9nvo>ppnerumBo9nvo>ppney
SmetMppnetdmQvrtMppneWo9nvtMppne^_^[btCn&nWu5bw6_VSnkn&vgmRvgb_!b_%q)bpNySy%w7vyn?w7vyn=s+sStWxGs+sStWy%njn9m:pu_|tWxG
njn9m:pu_|tWbNpJm2r,n(~NnVbvubw=r,zupAm9-xknhbxPr,y5r,z~r,oPq!pu|!nhbmYp_%r,pMtdnMmRmUMm2CImIoOpqwQzXp]FvWoOpCoYb?mrEm
;:FvWoOpC|4nuM_~pCoYbs%|(~6MmX_0nzmjTpCoY_VFvWnnoYcs1bnuMm^|Ncs1_0nzr?oYcs1mbm(n.nnoYcs1mbs5mw|Ncs1rh_zoYmsm%:m^n.nnrD
oYguy_zrDoYgoRcx|:_zrDoYgoRmsm%:y3Ar*|NgoRcn|pP_zrDoYgoRgp2gs1msm%|NuC_3r:w[cnGHnT%x(? tooRdoYw[cuDr:w[cvsoYw[cz,w[qBz
,w[p6mIoYuCc$mIoYuC^sr:uCqkAs$oYuCn7Ep7oYw[~]p7oYw[n7upoYw[cnumEoYw[c?r:w[qkAr:w[mss$oYw[pXm(s$oYw[qhEr:w[xHsO|Nw[yGF|
Nw[s8M|Nw[cq.oYw[_jpyoYw[cmgr:w[cx||NuCmsm%tqr?tooRc_ow[bzrv8:r2:m^n.nnrDoYioRg_zrDoYioRhoj|NioRfoYfoRpqq6rTOmBse$oh_)
q>sPv_nlneoPu+Wserp_%q)b^5bNpJm2r,mYp_%r,pMtdr,n(~NnVbmaOr>^Imgy%w7vyn?w7vyvubw=nMmRu5bzupAm9-xknhbw6mb|!nhbwNEmRvgmbn
kn&vgbxPr,z~r,y5r,_!mRmUMm2CImIoObu|^Yol^8~r|_Fsweu*p:~xt+xIu2||P_Xu;rCwm_Y~!|dz$wnbrk~bbq!pu|!nhbp+~bmRn*s0 ykbtMpptE
oroMykbu|^$ol^8~r|_Fsweu*p:~xt+xIu2||P_Xu;rCwm_Y~!|dz$wny%s+sStWbqbpptEn?s+sStWbw5brkrUw7vyp+rUw7oipeWserptCp]w6y%_&m2
tWxG_&m2tWbtCn&nWu5botxd*At9nDcmPmBns^_olp:plq0s3YolYplYs3rObotxd*A-t5~6x0r_oooz|:wAmEqxbotxdx0mS<wI>nsuqKnRKnXK>KnsS<
mhn>nXS>SnsuemMo[nXT>n9oNwpnRN~DwYnsrgHnRHnXxbnUp8xa^QnXMzanss_YnXYnszwm|urnXmQdmqv+wpcq8n&o*,wAmEqxn7nkI-q8n&o*,wAmEq
xbHnNnw nPL_?cmSwPn>SnNwPq(Iuw-qaSoNw0oNw0-_(oNw0-wSpVvNpcn>SnNvNpcdr;dt%wPdt%MvCdt%uAdt%qaspt%$pr$dt%|8pVt%wSHp8vCt*q
Wn>SnNuAt*qW-qaspqaSn>SnNqasp_krixzn>SnN_(dnLprnLdpkprKpV$pr$d|8pVwSpV+wh<A>s_p$>Ens>tjn|nsY>nsW<pO>O>tjYnsnXuMnsW>WnR
YnXtjEnXYwrpqwhu+Wse$war,nJomr,_tr,s?bBmqKm9rQbYm9r,W&qQoPpeWserpmvmcsiq*bq1tLsBtLpGtLr&tLo!rLtE|ar1pqA.xmppEq|*pv?n
a *nLmDn7E|vcmFxkr<a|Wp?CmJmQPmTCnkyI^OnlmFamQPmTCnkyI^OnlmFpqq6pp|;nH,YtFBm,Bxt t8oG8 yK|s nRBp.1 nsBxu nXBvO^;t8o.5^
;yKw, m.pF^. mYpFp91^;nXBp97 Jt8o.6 J>oPBoG6 JnsBp.5 JnXBrR7r^t8o.4r^yKp.7r^nRBrR0r^nsBr$1r^nXBr$0nTt8_CnTyKrR3nTnRByR
nTnsB|2nTnXBvPoht8|3ohyKoG0ohnRBp92ohnsBp95ohnXBwsyut8rRwgPyKoG9yunRByl nJpF|uyunXBx[ Qt8rR8 QyK_D QnRBoGwgQnsoPBp.0 R
t8n%7 mQpFp93 m|pFw1 mqpF|r RnXBoG1,t8z7,yKo.1,nRBx?,nsBp98,nXBp99qDt8xsqDyKoG7 mMpFx5 n9pFp.9qDnXBp94mBt8rR5mByKo.0mB
nRBo.2mBnsoPBz< Zt8rR4 Z>oPBxK ZnsB~H A2pFo.3 A3pFr$5 AnXBrR1^;WyKsD0^;WnsBo.8ohWt8~IyuU2pFp.wgPTyKrR6 mj2pF~J mj3pFp.
8 mq2pFp.6 ?2pFr$7 mryKsD1 r[tjSo4nH_mpF|ppF|1pFoG4pFo.7pFo.9pFp96pFp.3pFp.4pFrR9pFr$2pFr$3pFr$6pFr$9c+2q6r5OqunH1nZnT
*w3n%mBmU*w3o. n2m2w3p9 o$sew3p9FnT%yK1p9Mn<mfI&w3p.F EWyK1p.M v%w3rRF,mg-x*oOw3rRM mg-x*oOw3r$F,mLw3r$M ml%w3sDFnWmLw
3sDMnHtBpFpI0mBmgoOpFpI1rQm0YpFpIwg^lrxBpI3v_n&yKpI5nWYpMnhoc&OqunHpI7r^mansBpI8r^*sPm]r5OqunHub0 OoTpFub1mB(yKub2oc&O
qunHub3 %yxt8ub5nTm2ndr5OqunHvG0nHqSZyKvG1vvqZDpFvG2pFvG5mBOqZpFvG6w3~mw351 xvw352w353w354oc&OqunH1qMqDUmq2cr5OqunHy^7
w358w359nWnS$w360w361w362vv%MmXw363 %o_m!w364w365w366w367w368w369w370w371w372w373nT&$w374w376qDmQyK^i7w378w379w380w381
w382w383w384w385w389w390w391 mgLm&TpF220 n_OtTn9qZpF2y7nHvWTnKpFyZ0,rn%pFyZ1 m?pFyZ2pFyZ3,WmDDpF2p,pF2w.pFvw0mBmgy8mE^
OtSTpFvw1 ^OtSTpFvwwg^OtSmJFv%yKvw3mB|ipFvw5pFvw6oc&OqunHvw7 m.PT=r5OqunHvw8pFvw9pFy71pFy72pFy73pFy74^;%TpFy75pF2qMpFy
77pFy78pFy79dnEo?m;nHy^5_xnZ_xno_xn%_xoG_xo._xp9_xp._xrR_xr$_xsD_x|*_xzs_xpI_xub_xvG_xy^_x^h_x^i_x_O_x~k_x21_x22_x~l_x
27_x28_x29usy70us3p9pqztyaoz*mBmDDug|v pp>nDmRmgm$oy~RyDuW=|?u%cy2cmnp;rrFp;co|p;sItlcofp;r+n+~$o+qOcpiqOcp^qOct4qOrro
MqOczeqOsIp7qOcw>qOr+;qOco+qKcpiqKcp^qKct4qKrroMqKczeqKsIp7qKcw>qKr+;qKpYp7qKcmrmXnvqKcsqz2qKcmnz2qKrrFz2qKco|z2qKsImX
nvqKcqJnvqKr+n+nvqKq3whWw>Bnz;mwmVqhnCr>xZmwmVn7Eu9DxZmwmVcsqDxZmwmVcoZ$xZmwmVbDRnvm&nzyNFnCr>xZmwmVbnpm_ImEm&nzyNFnCr
>xZmwmVbm&nzUmQugu9DxZmwmVcsqDxZmwmVa|9 nlmqpA&p]oOn: o+vQepev.mjnLtfnPrxy,p;ds>qOeqKviFz2wbs>?wWtTo[p7?wWTspy,z2?wWTs
po+^V?wWTsps>^V?wWTspo+q9n3?wWTsps>q9n3?wWtTrC?mFSo[m9,?mFspy,p;,?mFspo+qO,?mFsps>qO,?mFspo+qK,?mFSo[p7qK,?mFspy,z2qK,
?mFSo[m9nTNnzqqm2yan5 o+Pm0$qSc$nis:pCr~Hm2^^&IpCr~Es:nuUmQpCr[$nis:pCr[Cv4m9Ap]piDmjnLm^p1Es:nuUmQpCpiDmjnLm^p1th~uqC
pCnPrxz1exA;mvqqm2^^&IpC|?m&o?qCpC|?$nis:pCTr4y2pYmq~uqCpCy,p;exA;mvqqm2^^&IpCy,p;c$nis:pCy,p;do+yop^qOq^s:nuUmQpCs>qO
pYmq~uqCpCs>qOc$nis:pCs>qOoC%YzxpCs>qOn4ArFpCs>qOc$nis:pCo+wbs>qKp6m;pAp]s>MNnzn7^omMpCy,p;nTNnzbo+penMexA;mvbpisqDSr,
p^vQSr,n|%r,?wWTr,DmjnLm^r,On,r,piOn,Sr,p^On,Sr,t4On,Sr,s>On,Sr,m&TmQnGSr,Kp$pwmcBnzEr,s[mjr,wAteAr,XninGSr,%?p*r,%rmm
jr,qum^r,Tr|Bnp&nHnzEr,rTOr,o+vQnMmb(nhOser,(m.tDqQNmUm:m^qQoPtt*ugt$Sr,u>IAnMmbnku>IAnMnxq&UmTr,m.^^rcugq&UmTnMmbInpm
_Ar,Dm9%Inhr,m_(%InhnMmbnimFmMnhr,Dm<&m.nhr,nznMmRmXm!I!qQnzCIAo;pqwh|9o; ?q%RnUpq2F.x:m:n9mcm.qjp)rnn2Sn[|foan5meo=d?
Tn9Omeo=rimamMrxnLoTDv+mU|fmgLm&|Yp4mwTmOdmM%<m?pFmLdmoIm;DriLnKp8*nlrGd_~n9m$n>|QdnpDdmlmUm2nNri%PmXRnvt_>mYnpn5rimUB
n>LmiriqZn5NpFEEt5rxmoIPdxvdHseyKtBmc~(rioOdv%dEpTm0dmYrxTmwy_pF_Pt_;TmQ>V(>y~v4nhdmq_,T>npsSdOXnHAm$^tLpc>ormFn>^o(m2
n>mpAX>Wo9YnHnVrix%|WnpyOzg+8q6sSCIpCmS)=Br6oxGp6cndWqkcv6JqBxH_Wocn4ocMn4NcnbPqBKryn7cnmTnm~:p%oxXpqwhtcIpCmSq72p6_Ws
GUnbR_WDqsxHr6occm]D2cnmmotU2n7oCqi8sGn4Nct)pYT2pdn7p1nd=UUUvoqB2n4DsGnbGpX2n7Tn7T2n4Gct]Csj9pYnmUUU2ryRocBocB2ocB3ocB
4_WD2q^2sGUU3pqF.~d yxnlmJqKmcqxp6mCqU^fvZu(Tr4u%dy2dmnp;viFp;do|p;uYtldofp;uZn+_:o+yopiyop^yot4yos>yozeqOuYp7yow>qOuZ
;qOpqwQvTmV!p]mSt8>K>~s>rxZ>xb$>nRuqm;dnkdr4zId~~>wUq(nXm2dnio[>nXtRspPmgq(xbEFdm2spq]dInRw&niSn4n5m2mIs;nPrxTr4y,p;c+
~omSY>u1$m2NqDS>Srm$m2NqDSnex*$p]mS|PS)sknCK*pXIB)nuGSmsIHVnhxHAnC$s4IUJ)m(GLc$IU$q^m:qBnhsYmTGnhocsHpH~p$p1Jm2cm!nhpd
AnC$RpH(n+~$mjseqH~poTcnGIWp1W(J_5AIHnbmCGWp1HpOnCs7$!r+;qOpqztvTpMMp]mS*pFm!dp4nRmYnR>ZnUnRv1nUnRZoO<v1mV<nRKnr>m0^Qm
9OwYm9O>q8OnRrnEnRmQnRmhnR?wInLm2_:movfnRmonLvfnRYr|rPm2nXnsOnsEFdrgTmhnXm[rPm2rPm2nRYoOdI>YnXs_IApsx%vTpMMp]mS*emYp:Z
A?u2m9Oq0mhIpqztuB%In:yY!Ptwn+rjn(Lww~tT)Hm]zRZn+)nUT)nGnms!DyGFtU(s8MD)_ip6pDn4mwqkUn7n(Kql(pdUn7ng=Qnt)mjmo)sANrjm((
pYm]ndUn7rS_VWmDmE~?DtvvTpMmh*p)<wIuqKnXGygnXX<C~5~5nRueTnXD<m.tInX~0Pt8<FwpwpnXtfM^QnXs_V<VnRzwRnXmTn><Z<zbo?<rg+wQ~p
mjm^Znu<~pmjm^ZnuAqPncUmjm^ZnuArgXmoAo)vWIs_nuHp$AzzdnuHp$AzzqPpFpTt8Un5wkrKmDmE~?Dm2n4u(wOTr4u%dqOpq2A.n2yd^Bs*mSt|p:
q0olAu*s3Ons|Jp:q0olAu*s3vfnc_:mLv+nXn|>pVrn>p*>nG>n2>q]>p?>otYs9o)dEFdnE>^kduD>nitz_PzItzmg>m2dm;dnkdr4vYdOnREW[t|p:q
0olAu*s3Ons|Jp:q0olAu*s3vfnc_:mLv+nXn|>pVrn>p*>nG>n2>q]>p?>otYs9o)dEFdnE>^kduD>nitz_PzItzmg>m2dm;dnkdr4vYdOnREWamoo9Ip
CmSrnEv2n9nmtem$qh^C$mZn7m]rSmQcnLm!nLcn|)Hr8r6IBcn2ngcp4GcqXcuDYqkvJm&nzUmQz!tuG=WO=m(-nqnSp_ocsF=u,q^sXmsmomsmYc&rKO
qZs7pcmsoxmq%n4mwq^oOmsG=n&=m<s7sPs7OZ=OoTmsvz%=mDmsnCcm2Rc%mjYq^%_2~:n|WaOSzOYnnmSr2r6p5rq)Xwwn2m;ryu]moI(p6nqCo)NpX_
5)QAsOyGsOs8*ocI(yimwcx|cnqq+)=ndm]Ums)^Cvfw4wNne+ywOSpT;s*mS<AnRA(ncHpFzwnL<EHnL<>E_ZrgHs_nRuqEHuqKs_mTp8wp<nsO(t*<EH
P_e<zbueEHuetT<EHtT<TzbDrgnXW<pkygrgZ<Zm(~R^_mS<AnRA(ncHpFzwnL<EHnL<>E_ZrgHs_nRuqEHuqKs_mTp8wp<nsO(t*<EHP_e<zbueEHuetT
<EHtT<TzbDrgnXW<pkygrgZ<Zm(pqwQm;BnzpCmStw=C=nL=DvZD=Dw9End=F=G=GJ=w9ndJ~==m0_Wm0ocvZvZpHJ=m]P=Q=mQrymQn7=mo=T=$=nbpLX
=Yqk=Zw9Gw9Gt2Mr%mgpq~nx)Ux)mhpC!B*IpCmS!TpFn+s9sFdnu|YEBtz%LdxDNtzHoTd?spnL<YmLDtzrgnCBdzbxEd(s_XxDNtIY*ri%dJnUXq(%ro
YmVdmgYTzVo)ncmDd|0_:nLnRCYo)dm^QzV%oNmLCtIZYo)dmosPdJo)Nd&o[Yo)^tn(tIZo)rim(Tt*r4|<YspmjTn>xDKdnEYZdmMWRdmoO_:IWNrip$
Wrio)NrPo)Dds:WRq(IWc+B.CmV_saVmGKUQI^Yt8ByK>C>q]tI>DxbEnR_8>G<oPrgHrgwrJ>J>uqmTromTp8wYwYJ>~~>Q<mQw_S>wUo[>$>nXrxX>oP
YtztEoP^_mSt8ByK>C>q]tI>DxbEnR_8>G<oPrgHrgwrJ>J>uqmTromTp8wYwYJ>~~>Q<mQw_S>wUo[>$>nXrxX>oPYtzne+4whppEq|Ap)qwvOsCw1sCw
ssCxssCx5sCvPsCw,sCxtsCz7sCxusCylsC_CsCx[sCz<sCxKsC_DsC_DFsC_DMsC|1sC|1FsC|1MsC|2sC|2MsC|3sC|rsCn%7sC|snc|sBsC~IsCoG0s
CoG1sCoG4sCoG7sCoG8sCoG9sCo.0sCo.1sCo.4sCo.5sCo.6sCo.7sCo.8sCo.9sC|usCp91sCp93sCp94sCp95sCp96sCp97sCp98sCp99sCp.0sCp.1
sCp.5sCp.6sCp.7sCp.9sCrR0sCrR3sCrR4sCrR6sCrR7sCrR8sCrR9sCr$0sCr$1sCr$2sCr$5sCr$6sCr$7nc1nZqin%sCzs8sCpI0ncpI0BsCpI2sCp
I3sCub1<qwub1Bncub1CsC^h4sC^i1sC_O0sC_O8sC~k1tnnotnn%tnoGtno.tnp9tnp.tnrRtnr$tnsD<A3sDBtnsDCtn|*tnzstnpItnub<A3ubBtnub
CtnvGtny^tn^htn^itn_Otn~ktn20tn21tn22tnyZtnvwtny7tn~ltn27tn28tn29tn30tn31tn32tn33tnp,tn^6tnw.tn37tn|,tn39ncp,0ncp,1ncp
,2ncp,3ncp,4nc~Pnc~Qncp,7ncp,8ncp,9tn~mtn51tn52tn53tn54tn55tnqMtn57tn58tn59tn60tn61tn62tn63tn64tn65tn66tn67tn68tn69tn7
0tn71nc4nZ-_Snc4no-_Snc4n%-_Snc4oG-_Snc4o.-_Snc4p9-_Snc4p.-_Snc4rR-_Snc4r$-_Snc4sD-_Snc4|*-_Snc4zs-_Snc4pI-_Snc4ub-_Sn
c4vG-_Snc4y^-_Snc4^h-_Snc4^i-_Snc4_O-_Sshnoshn%shoGsho.shp9shp.shr$shsDsh|*shzsshpIshubshy^sh^hsh20sh21shyZshvwshy7sh~
lsh27sh28sh29sh30sh31sh32shp,sh^6shw.sh37sh|,sh39sh40sh41sh42sh^<sh47sh48sh49sh~msh51sh52sh53sh54sh55shqMsh57sh59ncqM3
ncqM4ncqM5ncqM6ncqM8ncqM9sh70sh71sh72sh73sh74sh75sh76sh77sh78sh79sh80sh81sh82sh83sh84sh85sh86sh87sh88sh89sh91sh92sh94s
h95sh96sh98u&nZu&nou&n%u&oGu&o.u&p.u&r$u&sDu&|*u&zsu&pIu&ubu&vGu&y^u&^hu&^iu&_Ou&~ku&20u&21u&22u&yZu&vwu&~lu&27u&28u&2
9u&p,u&37u&|,u&40u&42u&43u&44u&^<u&|Ou&48u&49u&51u&52u&53u&54u&55u&qMu&57u&58u&59u&60u&61u&62u&63u&64d+~oA7no <A7n%nHn
c7oG^;nc7o. x37p9|(nc7p. Hnc7rR Jnc7r$r^nc7sD Lnc7sDqP L2nc7sDsj L3nc7sDsd L4nc7sDua L6nc7|*mBnc7zs Xnc7pIyvnc7ub wDG<
A7vG qwBnc7y^nHBnc7^i n.nc7~l xDYYnc73wgJ>+A.A8nZnc8nonc8n%nc8oGnc8o.nc8p9nc8p.nc8rRao8~no_|G^ZAqHwGqjx$o(~FnWvgdvbo(~
FnWvgy*A>s*BpFuPw_v1 pbr.fumxRg~Tdn2Zo6pbp=pVD:s%fodgn3s%dsy>Cy?syw2_8m9qrpbp=pVv%mcxvrim*Gs9uPrim*GuPdHu=>s*pVHvYuPdn
DrGmcJu=;n3odromcpbp=pVLZ pbp=pVL:Bm;Trim*L:Bm;Tro:xRokBm;|Ym0Zu*umxRo[~SYfsvnHm;|YOu=>s*O>Cy?wDG<Qo[~SR:t|~(in3xRur:s
%fnPmoodrim*Ro[C pbp=pP~To[mcpbr.fumxRdnGtVpbr.o[:xR|^:n?odw_s*YpX^+!slu==syG^+!slu==^7mT^7mICnpm$p6mXmICnpm$s8_cCnpm$
c!nEqZ%nWnpm$cw+nWnpm$:xRn7mk,:~Tpq4ztCxVm|w$,YtFBm,)=ndm]nbJ)tjJm]oPKr%~=ndKm]KnbwTm0_WndLm]LnbsYM=MndMm]s]n4pHvZIn4m
]NnbPq7=PndPm]Pnbs4mQcm||bryUn7qH=mhn7m]SnbTp5=mMpYm]TnbuNvzw]zRoPX)X=+whZ)tjZOasFpMImI%Am^p]mSA|epF^ks9I_9dnum0$dxbx|
tzo)_Zmg$dnG$rP|=pVvXpVmT_hpV_ioNmwn>Am&pkncY(t*>SngxbQntpVmQmodmo_Z?W~&qytDnMn4u(xBTr4u%do+qOeqKo[p7qKu:!Mv4m9;mSAm0P
oxp*$pXI_9cnum0$qq=x|qko)w~mgv6nGv6s!DoxvXoxmT_hox_icwKNmwn4mw~[m&pkmsY(pdx2ngw9QntoxmQmotUw~?Wbv(q4pnm!&bwZq4pnm!&byD
uK|?u%|]qwA?EpCmSwKA|emsm0PoxwKp*v6p*$pXI_9cnum0v6wKw9w9x|qko)w~mgv6nGv6wKs!Doxs!DoxwKvXoxvXoxwKmT_hoxmT_hoxwK_ic_icwK
Nmwn4mw~[m&pkmsY(pdx2ngw9QntoxmQmocn$!zZ(tUw~?Wq3~nyDt<mRtGCImvohu(oZbyDnPpL|?u%co+qOpq30.m(TRpCmSAm0Poxp*$pXI_9cnum0$
-mQmoqq=x|qko)Ncmgv6nGv6s!DoxvXoxmT_hox_in4mw~[m&pkms^|pdx2ngw9QntoxoPmow~?Wq3ztyDr~nPpL|?u%co+qOu:nUm9n&IpCmS!F_3nmGn
(Lp6m;nmw9pOnbZxCmgnmnGnms!DyGFs8M^]_in4mwn7nkKms(pdx2ng=QoJ|bmotUw~?x<yDr~|?u%co+qOcr[n~Eq3whWmDDug|vasSm.pCmStwpXp6c
=VcndYqB_Wocn4cm]Rn7p1nmnbFxHn7pYnm~:p%sSn4NoCq3zto(~Foypq40.Mm2OIn: t5m2qVsSpAp]mS<>nRnss_Wt8<skqPt*<tfNwpAqPoNwYpo2u
r<mjqPdmTdpk<HrgS_eAqPn>>uqQ<ue?qPo[>nGqPdn9tIqHo4 qLDJdqLDJqPmRm!mhoMmS<>nRnss_Wt8<P<tfNwp>zwmTdpk<HrgS<xgn&,_e>uqQ<u
eT>n9tI)+wQFmjtD y8Vp7_fF$spo+pecnSx*qu RM|YsFNn4u(^f>Tr4u%dy2dmnp;viFp;do|p;uYtldtjo+yopiyop^yot4yos>yozeqOuYp7yow>qO
uZ;yoo+wbpiwbp^wbt4wbs>wbzeqKuYp7wbw>qKuZ;qKo[p7wbmrmXnvwbsqz2wbmnz2qKviFz2wbo|z2qKuYmXnvwbqJnvqKuZn+nvwbo+^Vwbpi^Vwbp
^^Vwbt4^Vwbs>^Vwbze^VqKuYp7^Vwbw>^VqKuZ;^VqKqhmjtD o+_fF$dpi_fF$spp^_fF$spt4_fF$sps>_fF$spze_fF$SuYp7_fF$spw>_fF$SuZ;_
fF$So[p7_fF$oipk%Omo$o%mSAtHwIvFw_>m]+zt_$oyuloXtgojc|z%p4rhKzonqoPCyr~2y_|.q7~g|VxY|LZ)nqKKzA$p5qesTm(w4_RnHq|sxx)tu)
zd~Ry;m^bq[t<byD|?u%co+yoqKbFmjtD o+peq3^=w% nDy*r1oCn*m0oCmQqjyIogocnN!n(cnSTnhp6nV)oX^j)ppnipq^=qZ|:rmrpzXIpCmSmgemT
_hu*mg$e_i_Xntu*x|emo(emQmoep*$e?WrCoOq_maHu2mwq_mg$rCngmgrCAm&pkeFq0r2eo)Nv.m(DmgswI_9enum0$swm(^|enG$wno)Nv.m(m0$es!
Du*$|QeuD$oNu(&q0y,p;oNn5m2p](wqr<bu1rpzXIpCmSmgu*v8em(u*m&nk_XsOex|xXnf2emQu*p*u*nGu*Enf1eotFepv&q_m(HrCngxXnf3etru*r
2eA(v.ngeoznkv.!swm((e?u*ZA(e$!en|u*uDu*Z|PoNu(&q0z1eu%pq20.zOn&m(EpCmSAm0Poxp*$r6mg$pXI_9pXt5_9cnum0$qq=x|ulturhZo)(q
km(Yw~Jo)w~Jm(Yw~mgv6nGv6s!DoxvXoxXmaoxpkmaoxmT_hoxDm(_hox$A_hox_in4mw~[m&pkmsY(mso)(pd=Fx2ngw9QntoxXntoxQnUPoxmQmotU(
n7mow~?Wbqwq>qL_s ~Eoj~RyDr~nPpL|?u%co+qObw%uXcpnm!_]oXnDmHs$nDo5mHs$nDo5cpinDp1vrnPL_?pq~oAnEr>pCmSqlqlOyLm]*ms*ms=ya
==^Cm]vJnd|Dvo=X=XY=XpLG=sX=Gw9C=J=T=$=D=Dw9qe=P=F=B=Bw9q2=q2Y=q2pLNvZYvZN=M=HM=YY=Y=pLmQcm0n7=Z=mo=Zw9moYx2mo=mgq3whq
wq>qL_saT(nvwusRo+opw%o3mpwusRo+opw%a^2wusRo+opw%bo+opsRwuw%bpiwlmcsRo+tgw%bo+tgsRpiwlmcw%a(qjvBnamIp!$IpCmSA|epF^ks9I
_9dnum0$dxbx|tzo)_Zmg$dnG$rP|=pVvXpVmT_hpV_ioNmwn>Am&pkncY(t*>SngxbQntpVmQmodmo_Z?WctjyDxSo[r4u%do+qOeqKbq,HmTVo%mSA|e
pF^ks9I_9dnum0$dxbx|-o)(-mQmotzo)_Zmg$dnG$rP|=pVvXpVmT_hpV_i-QntHoNmwn>Am&KpVP>Sngxbmo_Z?Wc+ztyDxSo[r4u%do+qOeqKu:S!m
F q,HmTVo%mSA|epF^ks9I_9dnum0$dxbx|-o)(-mQmotzo)_Zmg$rP|=pVvXpVmT_hpV_i-QntHoNmwn>Am&KpVP>Sngxbmo_Z?Wc+^=qyCq)pYqto*ug
Cq)ct4nDS:vxfnDc+C.yDxSo[r4u%do+qOpq~m.vTTm!Kp]mS^g<Y^:olA>^gnRY^:p:>^gs3O>Y^:O>^gqw|xqw|cyaB|xyaB|cpT|xpT|cyaG|xyaG|c
ng|xng|cAo*xXZ|x~u|co)|xo)|cAxD|xAxD|cAtR|xAtR|cOtR|xOtR|c!|x!|cAm;em;Tenke*eAr4Y^:Ar4^gmX|xmX|cx=|xx=|cm9Y|xm9YenN|cv
Y|xAvY|cyxenten&xXC|xEC|cAQ|xAQ|cIQ|xIQ|cOQ|xOQ|c%|x%|cAm2enzeAnieu8|xu8|czI|xzI|coO|xoO|cAn+|xAn+|cw$eskmoq33^=Hr8%I*
^YolAolE^8n(BxXCex=xXCudo*enV|_Cuv;q0Eq0EFxXGxXGYxXu*p:Ip:EJetResPemwKem;em;Yenkem9em9Y||Os3NyzqZSBm!qrOq0tGm.MmXnnOq0
OEq0yxenkPem2e|Jm2enieniZen+emXen+YxXnL_YUplNyzqZSBm!qrUq0tGm.MmXnnUq0owxXZxXZudmumomao*nMenhc+D.^_mSolAolE^8n(BxXCex=
xXCudo*enV|_Cuv;q0Eq0EFxXGxXGYxXu*p:Ip:EJetResPemwKem;em;Yenkem9em9Y||Os3NyzqZSBm!qrOq0tGm.MmXnnOq0OEq0yxenkPem2e|Jm2e
nieniZen+emXen+YxXnL_YUplNyzqZSBm!qrUq0tGm.MmXnnUq0owxXZxXZudmumomao*nMenhc+^=yDs;nPrxTr4y,p;do+qOeqKaH*InP mqw!YnnmSt
8<P<ueqe~5<C<rgpk<F<D<n.<zwRzwZ_e<zbuqG<mTp8wp<W<K(yCmB<s_K(Nnns_q2wps_V)qd <wI>m]qx,sP(oNnnpk&NqHm~ rBskm(_:?pD<T*<?S
mhc+~nsWns^fneo82ywy.o%q[uWtEyD|?u%cy2cmnp;rrFp;co|p;sItlcofp;r+n+~$o+qOcpiqOcp^qOct4qOrroMqOczeqOsIp7qOcw>qOr+;qObFmj
tD o+pedvQdsq^]pisqDoioPn|ZIm.yYm;u,r6=P=pA=$x2=CsFcnLsFcnLHsFqqnqXp[!qk!ry)RnqZrqqH(tU(n7ngp6ngpYzY=xDNcXmg^|qhsT<xA;
mvxHsOyGFqBm(Fcp4Fs8MocsFn4mwcn5cx|cmLq^Wcm(~$s!nmn+_VCx%y3Aoycm^DnuoybzupAm9_sw4mSv8qEsxs!T_^vepq4E.qZ|:qVm.pCmSA|edw
KA|epF^kdwKp*$s9I_9dxbwKxbx|tzo)_Zmg$rP|=pVvXpVmT_hpV_ioNmwdwKNmwfumqbs%n>Am&pkncY_ZxA;o)(t*>Sngxbn$!,ngmgfumqbs%dmQmo
-o)(-num0$dmo_Z?WdwK?Wfumqbs%n4u(zqTr4u%dy2do+qOqhmjtD o+peczro)(-num0$pq~nSqVm.pCmSAm0Poxp*$pXI_9qq=x|qko)w~mgv6s!Dox
vXoxmT_hox_in4mw~[m&pkmsY(pdx2ngw9mQmo-o)(tUw~?WqhEv6m0mobqNPsQmXzZ(mRx%zdcwuojcopsxwusxs+oM~Eojcod ~Eojct|odr*^smor*n
7thK;_EyDr~|?u%co+qObw% pix~SfumnDSoCn*m0z&cutuIrGz&p1pey>z&ao8ywvTUYGHm!yYA|epF^ks9I_9-mg$dx|tzo)_ZwKmg$rP|=pVvXpVmT_
hpV_ioNmwn>Am&KpVP>SngxbmQmodmo_Z?Wdm0mooCx%op^SojdwuoWfojpdwerQdutrQudnDspt4nDoi+2ywnLmDnz^^pCmSA|ey*Am0Poxp*$pXI_9cn
um0$qq=x|oCm!m0DmB|Qqko)w~mgv6s!DoxvXoxmT_hox_in4mw~[m&pkmsY(pd=mQmotUw~?WbyDt<pYp%u%co+qOao8wQm;Ym^p]mSAm0Poxp*$pXI_9
cnum0$qq=x|qko)w~mgv6nGv6s!DoxvXoxmT_hox_in4mw~[m&pkmsY(pdx2ngw9QntoxmQmotUw~?WbzrZo)(-s!DHpq~oBmjH^^nMnW_.nb|zr3rqIHV
n(Unpq+m<ngHzOIp$rh~hvFurRrodp_c=xC|Xvo|$|M|.q7~g|VxY|Lnqp_)vT?yB p_mTu;mju2NyCtHAt8m(TmMr_Lq%^dvFu;Rt+ep_dzG_Qx<y;m^b
^juLoX^juLw% nDcoXnDcpp=pfqjyIogcnSTnh~RyDuW=|?u%cy2cmnp;rrFp;co|p;sItlcofp;r+n+~$o+yoqKbwNEulvT?yB y;m^rhvT?yB,oSmJ^A
OtHvT?yB,oSmJEgOrhvT?yB tFq3~oyDvttvotmGInMnW_.nb|z%p4rh~h=xC|Xvo|$|M^cDnqn.nqR^*q7~g|VxY|Lm(tH^dzG_Q~.qLv%pHs5?bqwq>q
Lptr,m9n5m2ptr,NpJm2nMnxCq)bruugCq)b^juLoX^jAtHvFq3A.NpJm2p)oWpqq6SmDA,mtm9qrrVApV?HpFApVx)pVnupVp4pVm^HoNp4pVmTHoNApV
zQpVq,pVp$pVmjpVm(pVotpVJ|PoNp$HncpVEEpVIpVUpVOpVEpVm^=+^=sWns^fne+ywCm(Km^nMnW_.nb|z%p4rhAxnnb=otr%m()p4rjm(pHp4s<As<
m(rqArqm(pHp$p5?x^Ap[nusrm(pHyC)?v7A)nup[m(pHAq7Aq7m()sktwm()m^)Yp$)p$)mj)mT)pOqHA)m(AtH<wrznzG_QnXOIbOoyb~poyby;m^bm^
o)p$uLoPwNEnxCq)b^juLoX^juL_!rhLm(AtHvHEIrhzQApq~nm^m(J*o%mSxnnb=m]KzonqCyr|M|.q7^)sYs4|Vu]nqRmjrzohs5?bqwq>qLptnMnxCq
)by]UmQzZm|pq~omo%ngAnMnW_.nb|z%p4rh~hvFurRrodp_c=xC|Xvo|$|M|.q7~gwTp_sTxY|Lm(tH^dvFu;Rt+ep_dzG_Q~.y;sYo9Aornqy+HVn(Un
pq+m<ngHzOIp$bmUb^juLoX^juLqwq>qLptnMnx|vmbnVt5oyrzohs5?bqd_l|Foyb|Smj,oSmJqdoymbpcmjoytHPm|mo$A_~r?EuluTCzpwibwNtEtRn
(rz,o^t2bo=r>mqoKmRo~(UptnMnxCq)qiocnyqPaoPS(pDnnxgp]q[^fvZu(Tr4u%dy2dmnp;viFp;do|p;uYtldofp;uZn+_:o+qOeqKpqB.KnUJKo%m
S|wnb=xC|XvozoyA^R^XrqJ~2y_^cz?ytsrDzfq7yVtwBz_zj|Vu]nqtFtHzEwIzG_Q~.u~)qLv%pHs5TxYngnub^juLoX^juLWmDDug|vnxCq)bruugCq
)bqwq>qLptnMrz,s5mwpq41.MnwT*o%mSxnnb~=wwG~2GnqoPCyrrqJ~2y_^cDsr^*q7yV~2Bnqzj|Vu]nqRs4Rm(nxCq)pqywpkUnupOm.yY~h=xC|Xvo
zoyA^R^XrqJ|M^cD)Rs4n.^*q7yVtwBz_zj|VxYu]m(ulu~AtH^dzG_QUrzohs5T)y;m^q3ztwNne+ywGuc$AnMnWx%u~nnsxC_.nb|z%p4_VmS~hvFroc
tj^CxCtjvfmsvo|$|M|.~2P~goPwTp_~2VxY|Lm(aoPCx%sJwir*aGuc$AnMohs5T)o9Aorm(tH^dvFu;RdtjEzGtjvfnc~.y;m^w4mUq3ywAq%_$oyq3z
t_R oaU?rhnEwq u~<oXu~)vFRdp_tHu7Lep_pqq6Cx%Guc$nnsWnszqmhn)+whmS<uqN<VnRq,pq8B.r=WnnmS~hvFurRrodp_c=xC|Xvo_+|AnqCyr|M
pHYnqqe^3^*pHnqP^)sYMnqwvRnqwTLnquNmo|Lm(tH^dvFu;Rt+ep_dzG_Q~.y;sYC_.nb|zr3pHs5T)o9AornqwKu~uLmUmbo^t5b^juLoX^jAmRu5bG
ma nPL_?bqwq>qLptr,wNtEoX^[_1mTrfnULDm2oy_V(ydnanMmbnVt5oyrhnEwq u~Auly+HVn(Unpq+m<ngHzOIp$ao8E.mMRHU? *y+rh~hvFurRrod
p_c=xC|Xvo|$|M|.q7~g|VxY|Lm(tH^dvFu;Rt+ep_d>|JzGns|J_QUrznW_.nb|zr3)qLv%pHs5T)o9Aorm(bGVnNbqwq>qLptr,mUq3~nwNne+Aywmhn
.t2yY~hvFurRrodp_c=xC|Xvo|$|M|.q7~g|VxY|Lm(tH^dvFu;RdtjzG_QUrznW_.nb|zr3)qLv%pHs5T)mhn.t2b^juLoX^jAnx|v nDcogbmQrnmMq)
qiocnyqPocnysjb_bp|nGXmJqxnxCq):n[DyIn3U-momameukSg|npfqjmXudmjYmcn3|npfqjmXShoXpfqjmXShyWpfqjmXspoXwlfummjYspumoXpfqj
mXudyWpfqjmXudyh~ym,pfqjmXudqyPTm<m,pfqjmXudr1mcn3mjYSgpix=nSrSwXgt4x=nSrSwXrhn~powLxA;ndut-wLxA;p:t]xA;UtHxA;plUUpq2q
6o_m.yY~hvFurRrodp_c=xC|Xvo|$|M|.q7~g|VxY|LnqtFtH^dvFu;Rt+ep_dzG_Q~.|zr3)y;sYn1m(Cyjb^juLoX^juLqwq>qLptnMulHUzQq3B.wNn
e+ywv[x*np*nHnCp4:ukbtpBnCp4boXBnCp4:ukbyWBnCp4:ukbBnCp4:oXukbtpBnCp4:ukeoXukbuTBnCG<umoXukmbWnCLnHnCG<umukeoXukbsZo*,
WnCLnHnCp4:oXukao8whxdm|yY~h=xC|Xvo|$|M|.q7~g|VxYu]nqRmjul|z%p4tH^dzG_Q~.qLv%pHs5?rhxgp]zNbqwq>qLptnMq3ywwNne+w..|PmUy
YKwwq2pHp5)xA;Tq7yVy&rqv$v7)s4LqHpHq+nqp[p[nqG)xA;yAw:nqJnqxA;skw4u9^nyHp)o:mImTemjt+mCoOn8mjtH<^dx3Wd_QnRn(rzr^oT_?~R
wNtEyD|?u%rzu<ugtDn7EtDryUmTImbo4 qLrhC^cz?)tFpqB~omYoryY~h=xC|Xvo|$|M|.q7~g|VxY|LnqRmjtH^dvFu;RdzG_Q~.|zr3)qLv%pHs5?b
qwq>qLptnMpq6wQW%nNnWImM^YNp4ololWp:YplYolYs3Ip:Uplq0s3nNswolKs3m9YeyFJeUCem9NeOn.wmnGu2r8enueoOen(usplPplt5Ys3nUnSeoS
RerBeo?Uplmhp:qL_T^_mSNp4ololWp:YplYolYs3Ip:Uplq0s3nNswolKs3m9YeyFJeUCem9NeOn.wmnGu2r8enueoOen(usplPplt5Ys3nUnSeoSRerB
eo?Uplmhp:qL_TsWns^fvZu(Tr4u%dy2dmnp;viFp;do|p;uYtldofp;uZn+~$+C.mUam.nEmcsPm!q%mS<^d>tjnstjuqpkygygrgq2<C<nL~5<oPNs_q
e<oPn.<n.rgNN<ue~0D<DrgN<P<pAt8t8rgtfs_Ys_zwmT|^<zbo?_e<rgtFtz)r!Aolp:Ip:plUplq0oPAp:m]tj_R u~<C_.nXpDyH)qLv%q7mQnPXme
Nnz!nMco:mIq+o<mIs4o:mIRqHm~ohs5T)oX^jrjma nPL_?c_bp|nGXmJqxc+~osWns^fne+4ywNnV(pT%o%mS~hvFurRctj=xC|Xvo|$|M|.q7~g|VxY
|Lnqp_)RmjtH^dvFu;RdtjzG_Q~.|zr3)y;sYo9Aornqmhn.t2bo=r>mqoKtHPm|mo$A_~r?neo8B.Z*qwAZ%y<mS)r!p:Uq0plq0Oq0s3Ap:AplsynR_$
oycmSuqpkygygrgq2<C<nL~5wps_qe<T~0n.<n.rgNN<ue~0D<DrgN<P<pAt8t8rgtftT<Tzbv1<v1rgZrgZ<-<s_zwmT|^<zbo?_e<rgKo?)wKu9^n_6q
xn7m~ y;tfC_.plumukriyj:ukdu~<Vm:r3s<LnhmF-o<mImSs4CLnhmF-wKmSYolmjemTeV)o<mIz(qxoCuvn8z(qxocnyqDwUGdmongdrut0DdxxqDwU
Gco<mIru-ppmez(qxoCuvn8ru-ppmez(qxn7nKvtm2pq~nSOYmUmlyYAtHnRU>nX>nsOzGAnXvFt+c_$oyrhK|$|M|.q7^)Mp5Sp5mop[ZzYnqZ)-)wv|V
xY|LnqKo?Auly+HVn(Unpq+m<ngHzOIp$mRLnhmF-o<mImSzwmTdzbSuLwKu9^nyHp)Gq_eq2v.u2usxIu;t+emorCe-Aul|z%p4bGnk(_smbnKvtm2bqx
qDwUGtUngcrut0^]oaU?bz(qx:o_pynV,mwokyWy9m&iy9m&gSmwbmFxkmIqxqiocnyqPpqD.C*Am.*,YtFBn&mcNoOmMnpK HnRt5nR~_nUnsrgm(<mom
|dmom|nRmomqdmomqnsmozwmomjqHPx2s:n7Pm]Sq,aq,UnWs$m(q%mSPolKolmTem^enuwnolVolq2olm(swolzNrColBolCol?e$olNolx:emjeFolCm
(eolq0p:s3plUolIolwKPfKfTfMfNfLfWfq2fYurm:n8x;xxesf>SnVHo%G^+!slurm:n8x;t|n$!fn$!n>nVHo%G^+!sl n$!wmo+xxesf^At|n$!fn$!
p8se-m0Vm;qDs;G^+!sl rbyHp8se-m0Vm;qDo+t|n$!fn$!doU-Fmfn8x;xxesf>G^+!sldoU-Fmfn8x;t|n$!fn$!s9^+!sl n$!ao8rR.Bm(yzrSKo%
mS~hvFurRro~&=xC|Xvo|$|M|.q7~g|VxY|Lm(tH^dvFu;Rt+w_zG_QUrznW_.nb|zr3)y;sYo9Aorm(b^juLoX^juLWmDDug|vbGma nPL_?qirrL_?qP
q3A.wNtEyDuW=|?u%cy2cmnp;rrFp;co|p;sItlcofp;r+n+YbqOmcmwqUqxpqwhM%nLp7z(qxbqxt0DrhKwwG|A^XpHYytpHq7yVy&p5Sp5mop[Z)uNZn
qZ)-)wvwTmou]nqAw4SnKvtmemSuqpkyg<q2<C<nL~5wps_ue~0Dwp<P<pAt8<tftT<Tzbv1<W<ZrgZ<oPs_zwmTdzbS<rgAtHvHwI>Oulu~s<zpwipq4~
om^S%n(vv&m.yY<^d>oPAnRnsoPAnXuqpkygygrgq2<C<nL~5~5rgNs_qe<T~0n.<n.rgNN<ue~0D<DrgN<P<pAt8t8rgtfs_zwmT|^<zbo?_e<rgtFq(o
?~5Ns_Ts4r!Aolp:Ip:plUplvFe+whq0oPAp:s3oP~pn7m~ u~<Vm:r3wps5ueCnVzwpDyH)y;sYmQPnqmj-K%)+~nsWns^fne+ywzKJ!nnG&m.yY<^doP
EzGoPvfncnXs_Vt8t8rgtfuqpk<ue~0mTs9ygrgD<DrgN<C<nL<qe<T~0tFdJ~5rgn.<n.rgq2<P<pA<rgzwS)r!Aolp:Ip:plUploPEq0Ap:oPOs3~pn7
m~ u~<Vm:r3)y;sYmUc+^=sWns^fneo8w..m^Knzq|mSKrj|Aq7twy&p5p[pHs<rqpHq+wv|VqHqlbnNottHwI>O_1nzv|BnNb_boJugtDpqB^=Lm:q%mS
Ym(pqF.?yB|(mjtD o+n~poqO-nV-mr^F^kdw|qO-nV-o|mM^kdofmM^kdo|p;-oZ$dmnmM^kdy2-qyu9^]p^ofmM^kspo|p;-oZ$p1o+mr^F^kdo|nGt7
qido|nGt7qPo[t7dofv6p^mr^F^kspo|nGt7p1o+y,$dvQdpeqidpeqPcp^vQp1oFqj!n8pSnjr^IosHrzohm;oCowmVUyLZm(sPKz8Zm(KKnbs]UVUZm(
KKvom!mwndq,$sPKnbMs5Km!mwndotnlnbP*n(pd_]pKAsP*pdA%n(qBU^~ndVm;IbuMmJCnwmMVptr,Dr|nWnwmMVptr,LnVnMmb!mJP*r,^om.namIpf
DmVnMn4pJm2nMmRm!RmXr,n3On.nMmbPmXr,n9T!r,s$nJo?nimh&nMmbT%p3zJnMrznTU$!Iq+zQotIY%AAq3D.w% _bp|nGq&psmwEImvp)<p&olBngs
w~3_Jplm(emCp:mTGq|zKpls]morCpTqsmsBvju82v.mw3vvmwplG!sw~3_Jplm(emCo%zKplsF(emTp4BrCmgmoeq%qnq%qnnXzKUmsB2vjB!pTsw~3_J
plM;qnm9emoA3exd4msDmsKvjm2(2emomVnnqnGwkc!vj!em.M2swwkem(q_ng3q_p:wUezzc!*ms|emsM%dpUS,w9|fsR|fp^pUspqnNpTnnntnJSn8pC
qnyCp4fSoqo*c*mo=maw~%ngvjKm!cnyqwmsS!2msmotzsennz1nXotBnnz1nXsRu8qDuBwgo>qDuB2qDuBwgo>qDuBwgy~fsRu8hvxn8AtVsRAtVsRu8m
smo2msmop4Br6twngr6pT3r6ArB2r6!do>nH!r6!pTcogcogA2r6nRp&ol|UemCo%zKnbBnXo>nHq%qwfmwrit1n8BnbBnwuBdo>nHnwuBr6m!r6m!2p6)
nuGq(Iv|5 p&nnqnm^mofn(%fB!pTf^7fp4gqnm^mofyyfGnC2fGtufm(fnCgqnxTfotKfmTfxTgqnm^mo2fLn5fr=fy~ qny~fmhfxd4fUwgqnGnC2fzz
cnuMp6%p6%A3p6%A4cm.cm.Bcm.MdpUS,w9m.M2p6(q(nzKmIq%zKq%m.mocm.mop6nXsRDnXzKnXwUmomCp6nKvjzI2p6nK2p6uBp6uBtup6UoxDmwp6m
w3s9mwplzKnbDmw4p6m!2c>p&y~dsR;Nmw o>ohmwq^2vjnnqnm( qnnusw%xIp:S!rCmgenbo*(q^GnCcm;cr4p&G~3fz1plM>vxn8r4ntnJSn8m9n>oq
o*cm2p%m2(2q^mo2q^Zr4p&qGqnL!hp&L!e*usngv.mw3vvmwUgzKplm(fzKplmCo%zKplKnzK!fSoqo*q_U3emTt+mIp&L!enpt+plU2etupXygmwnbp4
2vjnnqnDnnqnm(gm(gmCp:qw2_Jq%qn?^8*eu8eu8wgqnG!usngeog qnmjusm!_>mjenuem.em.M pUS,mgv.nKem;_>mTem9fp&G~3_JplG~3_Jpl|Us
wp:yy4_>olGnCwgw=,plm( qnLq%qnzI2epD_>mTeHo%qnnpeHnK2emCo%zKplItVqnHq%qnu8eotKq_nzK!q_se_>L!q_U3 qn*emTxI;qnm9xIp:Nmwf
o>ohmwePolS!rC%rCmg_>Tm!emoserCn5exd4_Ytu_>DnXsRp42cp4B<vxn8p4BrjngdsRp4mEGq|sR|UpX!dp4mEsRp4mEGq|sR|UpX!n(pXn(pX*pX~3
o[m9nXsRG~3rit1n8G~3pX%pX%3cp4mo~:xyT(vjKm!pXnRp&q0nXvxn8Gndyy4dsRyy4rit1n8yy4pXIm.MpXnC2s9mwnbGnC3vjnnqnmCp:G~3_JplmC
p:Lq%qnmCp:Prjm:!pXwkrit1n8GwkvjBngexd4o[m9nbGnXvxn8Gnbxj2vjotKfp&mCo%zKplNmwrCmIqnrOG2s9mwnbGtuvjnnqnKm!q_m!dsRxjmELu
B!pXnwpXn5dpUS,w9Gm!pXm!7pXm!mwpXm!zzqq<z1nXzKnbpDqqnRp&u8eu82usngem.moswngq_(u2mwrCmgenbHnbHnK2vj*epDq_nzK!enpmoetuqq
nw2cnR)IB_2m.MdsRIm.MnHm!fSoqo*cmCcmCnRm.Bdm|dsRmCIzZnC o>zZnC UmEsRtus9mwnboTvjG~3_JnboT2csFvjxd4rit1n8sFdntnJSn8sFn>
oqo*csFw~w~nCcwkqB<p&olng_>KU3eu82usngus!pTeogusp:m2(2xXmo2swolG!sw~3_Jpl|Ufw=t03 qnolGp:GnC2swItVw=,%fvxn8GwkswplGm!7
emCp:sFeotKq_p:Kseenpt+plm&_>wigyygnGxII_>NmwUZu2q0NmwePp:RplSolS%emoolwUemoseemoplSmCrCUHm!wm%_YU2etuen5n5 p&Polzzwnn
dot2rit1n8ot2yGBqBng2qBng3qBng4qBng5do>r^ng5yGKvjmCo%zKvo!vjBngrit1n8K!qBn(2qBn(4qBnzK!dmTp4qTp&q%sRmTp4qTp&nXo>r^nzKm
ImTp4qTp&q%sRmTp4qTp&nboKmo2qBnRp&Bng_YtuqBseqB(qBm:!qBwkqBIv|5do>r^Iv|5qBnXsRHo%p&u82r^q%sRHo%p&u82qBU3qBU4drb_6mvqBU
7qBnws9mwvomwqBm!dntnJSn8Km!qBzzU2qBWU3_OcwTmTp4BvjqGqnDnnqnm(g|UgL!e!e*eAtVZsennz1plBngusp:D%em9swol|Uswtu_>Gtuem(epD
eHo%p&NmwemCo%zKplsF_>m(gLplKp:K(q_U3q_nw_>Ho%qnolmTp4^8npmot+plLnwem&_>m9es]mou2q0mo;w=,n5emomVnnqnyytVqnm2(2hz1plmoU
2fw=zZU2rCn5e|kexd4wm;qnnnw=,q%qnNolU_>Agq%qnplUwgqnu8etuezzn>oqo*s8|UdpUS,mgfw=,n5s9mwplsRmTGq|zKU,w9mTHmonbL!vjL!s8M
vjKm!_>RnbLndnpLcnpMs]2cnpmo_WnXp&BngcxT2vj!usngxXmo2fz1plG~3_JplHo%p&BngesFq_ng2q_ng3_>u8q_p:mT qnu8emTp4BxI;qnm9u2q0
Nplmh qnu8emhKwgqnBplrOG2o[m9nXvxn8xT2dntnJSn8xT2n>oqo*n>mgmomCcxT3_WuB!dsRLuB!dntnJSn8LuB!n>mgmomCcxToxLnw_Wn5dsRLn5f
Gq|sR|Uoc<p&xd4s9mwnbm^2cm^Hoc%cm^mocm^mo2oc=m&SocndxkocnXo>nTnbs]Gs9mwnbMmwSnKocm!xj2oczzvjolKm!wn<o>nTzzfp&nnqnN<vxn
8s]mooczz3vjqGqnm.em.s9mwUn4pHA2n4pT<tJuGdpUSzZU_JnXntnJSn8NpTpHpT%n4n(ohUmMp_Un4n(n4n(2n4>p&oltun>mgmomCn4nRp&vZI2n4s
FvjG~3_JplGq|qnG~3_JUr+nu2vj*eu8_>u8swtuxI;qnG~3_JplNq0NmwrCmg_>nn*gu8hqnu8eUwgqnu8ezzn4m:pTyiyizsn4mwdmTGq|p&|Ufm^mof
S!go>ohmw mTGq|pUS,!fzzo[m9nXo>ohmwrit1n8NmwfmTGq|sRmT|Un4mwUZsCwgp&u8p4Bf^7fDuBfGtufmCo%zKUfKng3fmTfr=fmhmT3fU2q(Iv|
5 p&^7gnbPq7ngpd*pdmapdzI2pdnRp&olqwusp:Bplq0p:I^8plU2rit1n8PndPnCmCvjK!etuwn<ntnJSn8PnCmCry)mjBcm|ryUn7qHpTohUmMp_Un7
pTvjolDplDnKem(eotKq_m!t+n5xIp:NmwrC!emosee?^8U2enKen5em!ezzdo>,pTs9mwUn7!dmTp4qTp&u82n7nNA2n7%tUxYA3vjolBngswwku2q0mo
U2wmm!eU_>xYA6tUqw6tU%2n7xbHnXo>zZ;p4mEsRp4mEGq|sR|Uf?qTsR?qTGq|sR|U~]G9tUm9~]mo~]mo2~]mov8tUsevjolsFtUsFvjolB!usnwuBv
.(sw%emCIfzKplKzzU2t+nwes]GrC!tU(mCtUnCo[m9nXo>zZnCnHm! o>nHm!tUmVxYnXsRtJuGzZnbmoU2tUnKm!cmhs9mwUn7mCn7mC4do>,mC4zZU2
cmhK2cmhmT3n7nXo>,Un7tun7tu2n7UHm!n7n5n7Um^mon7m!n7m!9pY<vuvjHp:MnRzKnb?BdsR?Boho%o>oho%m.tVsRm.mon>oqo*c|kvjBp:GturCm
gemoplrOG2etucxd4pY%pY>zKnbmMo[m9nbqFcmMRvjxd4dsRmMRfp4mEsRp4mEGq|sR|UpYnbrOG2pYs5pYn5pYm!do>qDm! ZnnsRZ)nXGtudq%nXsRq
%PnnsRPnnGq|sR|UfSm! o>,m!fq%sysRq%q!o*sG2cnKsGDq(zzU2vjBngxIp:q%qnq%qnUjzKnXzKnXwUmomCep&BngsGDuBcn5vjmTp4BxI;qnnuemo
A3enbpJw~n5n5vjKnzK!eP)mws9mwnbm!rit1n8m!n>mgmomCcm!2vjnnqnm(gNol!em(u2mweU2_>u8gBndm!4cm!ndm!I3cm!nXp&olu8p4^8ogv.mws
wolG!sw~3_Jpl|Uswplm(emCp:sFewkq_p:Ln5xI(ePolwUrCmC4wmplq%qnGtuetuem!tu)m!tu<p&z8movjolKplKm!exd4sGmon)zz2sGmon5n)pcs5
ndUZ3vjKnzK!sGZnbZ<z1nXSoqmep&Km!qkpTqkn(n)ZE2qknRsRZndZI3qkIBdotBnnz1nbZmCqkos2qknbZU5vjzYnKm!qkn5qBma Ev8mV=AqTp&Nmw
msBwgp&)n(q|p&KuBcnuqrtev|5 p&Uwgqnm^mocnuG3cm.tVw=zZnbDnK pUS,w9~up7p&Gtuemo=p4wgp&pCqnotK qnolu82coz22pXmCqqzzqBnnp&
*wUeu83swwkswtueHo%p&u82t+n5ePolmonwwmplm!2s8p4qTp&GndxT2,mgmomC p&BngvjzIwgqnL!emonbm&mooczz3 p&ZpHA4r+r+9r+nuwgp&B!s
wIyizs ~jpdzIwgvupdnC2n7pT p&mCo%zKnbmM2cn5 p&M=q%Uq36ywNn5m2n&p)piu8dp^u8dt4u8ds>u8dzeu8uYp7u8dw>u8uZ;u8dp^m.modt4m.m
ods>m.modzem.mouYp7m.modw>m.mouZ;m.modt4nXs>nXzenXSowp7nXw>nXxU;nXo+xy2dpixy2dp^xy2dt4xy2ds>xy2dzexy2uYp7xy2dw>xy2uZ;x
y2do+xynXpixynXp^xynXt4xynXs>xynXut,rB2dn~purB2frb_6mvdoZ,rB2vinE,rB2do|,rB2uYm9,rB2dqJ,rB2uZpurB2d&purBnXut,rBnXn~pur
BUfrb_6mvdoZ,rBnX^P,rBnXmo%wgp&GmIqnm.mohxkdo+Bm!nXutnHm!nXp^Bm!Ufrb_6mvdoZnHm!nXs>Bm!nXp^rb_6mv zI^hgzI21dt4rb_6mv np
Ms]gnpMs]4gnpMMq%AhBdzerb_6mv u89uYp7rb_6mv sF(3gsFs$AhBdw>rb_6mv nhrSgnhrS3uZ;rb_6mv InpMs]gInpMs]3gInpMs]4gInpMMq%<p
iu8_JnXp^u8_JnXt4u8_JnXs>u8_JnXzeu8_JnXo+B~3dutnH~3dp^B~3doZnH~3frb_6mvds>B~3frb_6mvoNmCInuxkoNmCInuzIdo+nimg3dpinimg3
do+sqmEm.modpisqDmcm.movinE,zL$mcm.modo+sqmErb_6mv <pisqDmcrb_6mv <o+ofrpu8evQ u8dvTnzSYm|pC&puzL$gvQdo+vQvvm!evbGm!dE
v8mV;o+sqDepisqDudmnp;ey,p;dt4q%rb_6mvds>q%rb_6mvdzeq%rb_6mvuYp7q%rb_6mvdw>q%rb_6mvuZ;q%rb_6mv_Vw%p)vTnzSYm|*mBmDmE~?D
m2dqbCvgd|HCvgen[CvgeyhCvgq3B._R AqTp&Nmw_JplmoU2msmEp&zI2r6upp&m.mo_JnbskrBwgp&qw2u2p:Ztwq%o>nHq%p&yC2p6nnp&xd4cnuqrp
&Km!cm.M p&mCp:q%q%nbm.Mwgp&tup6Uqrp&*wUeu8f^>rkv.(v.mwem2(2swolGp:GnC2vvmwplGwkem(eHp:mCo%zKplKnzK!q_m!q_zzU2_>KnzK!e
mTK-xKev8fp&Km!t+Uo6qnGwkem^moem&udMp:Np:Pp:wUemhvvmwnbEwgp&Km!ey~cm2(wgn)zI2nWt1n8zI2q^Zm9,mgmomC p&u8ft5fmCo%zKUfmTf
L!fm&fm&SfSnXpUS,nbp4wgp&skrB2em.Mvvmwplwiqrp&mCo%zKUgKnzK!em2m9swolGq|qnm.gNq0m( qnolKzzUwgqnKnzK!ev8fp&Km!t+Uu*s]moe
r=_>E2gGp:mosFwnos2cp4Bnn~jcxyTs$p&nbyytVp&GwknWt1n8GwkpXUwgp&mCo%zKnbxjmEqnyytVp&xd4cm(_Jq%zKnbHo%p&AtVsRHo%p&u8qBnnp
&BplKolq%q%plm!s8p4qTp&Zq%sRZnbmTK-wsxN-_DxN-~HxN-oG0xN-|uxN-p91xN-p.2xN-rR9 sRmTK-rR9vvmwnbmTK-r$0xN-r$1 sRmTK-r$1xN-
sD2xNqi30xNqi42xNqP|*xNqP~kxNqP20xNqPy7xNqP28xNqP|,xNqP65xNqP66xN-p,3xN-p,7xN-p,8xNsj83xNsj84xNsj90xNsd41xNsd49vjGplmC
p:y~ qnxT3gy~ qnxT3eUwgqnB)mTKsd~mxNsd57xNsd70xNsd83xNsd90xNsd92xNsd93xNsd95xNs(~mxNuar$xNua^ivju8usngv.mw3vvmwq%zKplK
U3emTwm%enGeU2etuem!tu)mTKuaw.xNua48vjDnKswolmCIfzKplNp:y~ qny~ qnxT3rCmgtVqnKp:tuem!tu)mTKx&vwxNx&49cxT2vvmwq%p&u8vjm
.moepDey~_>y~ qnxT3exd4oco%qnZA7ocUtVo>nTUtVp&p4gotKr+nuwgp&m.MvvmwplGwkswnweHp:oKmo2emTK-|uem^moey~ qny~eU_>plm!tuqHp
Tvvmwq%p&rgp&m9emo;^>rkexd4tUA6_Jnbmo;o>,xbqnHnK2u2n(2rC%tUUwgqnwiqrp&Np:Ewgp&~:mh p&xd4cxd4 w=,pTpYn5 p&G~3_Jplp^m.mo
cm!wgtJuGvjtucm!q%p&D%A3emTKua68t+U3qkA7qkq%sRZq%w=,%qkU5 p&p^m.mo_JUpqA4C.CYr_-xkO*nMnWMvOq~w1q~xsq~x5q~vPq~w,q~xtq~z
7q~xuq~ylq~x?q~x?Bq~_Cq~yRq~z<q~|pq~_Dq~|2q~|3q~~Hq~|rq~n%7q~|sq~~Iq~oG0q~~Jq~oG4q~oG5q~oG6q~oG7q~oG8q~oG9q~o.0q~o.1q~
o.4q~o.6q~o.7q~o.9q~|uq~p91q~p92q~p93q~p94q~p95q~p96q~p98q~p99q~p.0q~p.1q~p.2q~p.3q~p.4q~p.6q~p.7q~p.8q~p.9q~rR0q~rR1q
~rR2q~rR3q~rR4q~rR5q~rR5Bq~rR6q~rR8q~rR9q~r$0q~r$1q~r$2q~r$3q~r$4q~r$5q~r$6q~r$7q~r$8q~r$9q~sD0q~sD1q~sD2q~sD4q~sD5q~s
D6q~sD7q~sD8q~sD9q~1nZq~1noq~1n%q~1oGq~1o.q~1p9q~1rRq~1r$q~1sDq~zs0q~1pIq~1vGq~3noq~3n%pqD.EGxVmMpCt5m2qVsSPo6AvOmsw1m
swsmsxsmsx5msx5qlvPmsvPqlvPBmsw,msxtmsz7msxumsylmsx?ms_Cms^.ms^.qlyRmsx[msz<msz<ql_mms|pmsxKms_Dms|1ms|2ms|3ms~Hms|rms
n%7ms|sms~ImsoG0msoG1msoG2msoG2ql~JmsoG4msoG5msoG6msoG7msoG8msoG9mso.0mso.0qlo.1mso.2mso.2qlo.3mso.3qlo.4mso.5mso.5qlo
.6mso.7mso.8mso.9ms|umsp91msp92msp93msp94msp95msp96msp97msp98msp99~>0~>1~>2~>3~>4~>5~>6~>7~>8~>9msrR0r6vOr6w1r6wsr6xsr
6x5r6x5twvPr6w,r6xtr6z7oCvOoCw1oCw1s<w1BoCw1CoCwsoCxsoCx5oCvPoCw,oCxtoCz7oCxuoCxus<yloCx?oC_CoC^.oCyRoCx[oCz<oC_moC|po
CxKoC_DoC|1oC|2oC|3p6vOp6w1p6wsp6xsp6x5p6vPp6w,p6xtp6xtp[z7p6xup6ylp6x?p6_Cp6^.p6yRp6x[p6z<p6_mp6|pp6xKp6_Dp6|1p6|2p6|
3p6~Hp6|rp6n%7p6n%7p[|sp6~Ip6oG0p6oG1p6oG1p[oG2p6~Jp6oG4p6oG4p[oG5p6oG6p6oG7p6oG8p6oG9p6o.0p6o.1p6o.2p6o.3p6o.4p6o.5p6
o.6p6o.6p[o.7p6o.8p6o.8p[o.9p6|up6|up[|uBp6|uCp6|uDp6|u=D|uFp6|uGp6|uoxD|undDp91p6p92p6p92p[p93p6p94p6p94p[p95p6p96p6p
97p6p98p6p99p6p.0p6p.1p6p.2p6p.3p6p.4p6p.5p6p.6p6p.7p6p.7p[p.7Bp6p.7Cp6p.7Dp6p.7=Dp.7Fp6p.7Gp6p.7oxEvOq^w1q^wsq^xsq^x5
q^vPq^w,q^xtq^xt)Ez7q^z7)Exuq^ylq^x?q^_Cq^^.q^yRq^x[q^x[)Ez<q^z<)E_mq^|pq^xKq^xK)E_Dq^|1q^|2q^|3q^~Hq^|rq^n%7q^|sq^|s)
E~Iq^oG0q^oG1q^oG2q^~Jq^oG4q^oG4)EoG6q^oG7q^oG8qhvOqhvO_5w1qhwsqhxsqhx5qhvPqhw,qhxtqhz7qhxuqhylqhx?qh_Cqh_C_5^.qhyRqhx
[qhz<qh_mqh|pqhxKqh_Dqh_D_5|1qh|2qh|3qh~Hqh|rqhn%7qh|sqh~IqhoG0qhoG1qhoG1_5oG2qh~JqhoG4qhoG5qhoG6qhoG7qhoG7_5oG8qhoG8_
5oG9qho.0qho.1qho.2qho.3qho.4qho.5qho.5_5o.6qho.6_5o.7qho.7_5o.8qho.9qh|uqhp91qhp91_5p91Bqhp91Cqhp92qhp93pXvOpXw1pXwsp
XxspXx5pXvPpXvPrjw,pXw,rjw,BpXxtpXz7pXxupXylpXylrjx?pX_CpX^.pXyRpXx[pXz<pX_mpX|ppXxKpXxKrj_DpX|1pX|2pX|3pX~HpX|rpX|rrj
n%7pX|spX~IpXoG0pXoG1pXoG2pX~JpXoG4pXoG5pXoG6pXoG6rjoG7pXoG7rjoG8pXoG9pXo.0pXo.1pXo.2pXo.3pXo.3rjo.4pXo.5pXo.5rjo.6pXo
.7pXo.8pXo.9pX|upXp91pXp92pXp93pXp94qqvOqqw1qqwsqqxsqqx5qqvPqqvP)Hw,qqxt_2vO_2w1_2ws_2xs_2x5_2x5)IvP_2w,_2xt_2z7_2z7)I
xu_2xu)Iyl_2yl)Ix?_2_C_2^._2yRqBvOqBw1qBwsqBxsqBx5qBvPqBw,qBxt_WvO_Ww1_Ww1)Lws_Wxs_Wx5_WvP_WvP)Lw,_WxtocvOocvOy&vOBocw
1ocwsocwsy&xsocx5ocvPocw,ocxtocz7ocxuocxuy&ylocx?ocx?y&x?Bocx?Cocx?Docx?=Mx?Focx?Gocx?Hoc_Coc^.ocyRocyRy&x[ocx[y&z<ocz
<y&_moc|pocxKoc_Doc|1oc|1y&|2oc|3oc|3y&~Hoc|rocn%7oc|soc|sy&~IocoG0ocoG1ocoG1y&oG2oc~Joc~Jy&~JBocoG4ocoG5ocoG6ocoG7oco
G8ocoG9oco.0oco.0y&o.1oco.2oco.3oco.4n4vOn4w1n4wsn4xsn4x5n4vPn4w,n4xtn4z7n4xun4yln4x?n4_Cn4^.n4yRn4x[n4z<n4_mn4_mpH_mB
n4|pn4xKn4_Dn4|1n4|2n4|3n4~Hn4~HpH|rn4n%7n4|sn4~In4oG0n4oG1n4oG2n4~Jn4~JpHoG4n4oG4pHoG5n4oG5pHoG6n4oG7n4oG7pHoG8n4oG9n
4o.0n4o.1n4o.2n4LvOn4Lw1n4Lwsn4Lxsn4Lx5n4Lx5pHLvPn4Lw,n4Lxtn4Lz7n4Lxun4Lyln4Lx?n4L_Cn4L^.n4LyRn4Lx[n4Lz<n4Lz<pHL_mn4L|
pn4LxKyivOyiw1yiwsyixsyix5yivPyiw,yixtyiz7yixuyixupHUylyiylpHUx?yi_Cyi^.yiyRyix[yiz<yi_myi_mpHU|pyixKyi_Dyi|1yi|1)OvOs
7vO)Ow1s7wss7xss7x5s7x5)OvPs7vP)OvPBs7vPCs7vPDs7vP=OvPFs7w,s7xts7z7s7xus7xu)OxuBs7xuCs7yls7x?s7_Cs7^.s7yRs7x[s7z<s7_ms
7|ps7|p)OxKs7xK)O_Ds7|1s7|2s7|3s7|3)O~Hs7~H)O|rs7n%7s7|ss7~Is7~I)OoG0s7oG0)OoG1s7oG2s7~Js7~J)OoG4s7oG5s7oG6s7oG6)OoG6B
s7oG6Cs7oG6Ds7oG7s7oG8s7oG9s7o.0s7o.1s7o.2s7o.3s7o.4s7o.5s7o.6s7o.7s7o.8s7o.9s7|us7|u)O|uBs7p91pdvOpdvOq7w1pdwspdwsq7x
spdx5pdvPpdw,pdxtpdz7pdxupdylxHvOxHw1xHwsxHxsxHx5xHvPxHw,ryvOryw1ryw1)Rwsryws)RwsBryxsryx5ryvPryw,ryxtryz7ryxuryxu)Ryl
ryx?ry_Cry^.ryyRryx[ryx[)Rz<ry_mry|pryxKry_Dry|1ry|2ry|3ry~Hry|rryn%7ry|sry~In7vOn7w1n7w1qHwsn7xsn7x5n7vPn7vPqHw,n7xtn
7z7n7xun7yln7x?n7_Cn7^.n7^.qH^.Bn7yRn7x[n7z<n7z<qH_mn7|pn7xKn7_Dn7|1n7|2n7|3n7~Hn7|rn7|rqH|rBn7n%7n7|sn7~In7oG0n7oG1n7
oG2n7~Jn7oG4n7oG5n7oG5qHoG6n7oG7n7oG8n7oG9n7o.0n7o.1n7o.2n7o.3n7o.4n7o.5n7o.6pYvOpYw1pYwspYwsp5xspYx5pYvPpYw,pYw,p5xtp
Yxtp5z7pYz7p5xupYylpYylp5x?pY_CpY^.pYyRpYx[pYx[p5z<pY_mpY|ppYxKpY_DpY|1pY|2pY|3pY~HpY|rpYn%7pY|spY~IpYoG0pYoG1pYoG2pYo
G2p5~JpY~Jp5oG4pYoG5pYoG6sGvOsGw1sGwssGxssGx5sGvPsGvP)UvPBsGw,sGxtsGz7sGxusGylsGx?sG_CsG^.sGyRsGx[sGz<sG_msG|psGxKsG_D
sG|1sG|2sG|2)U|3sG~HsG|rsGn%7sG|ssG~IsG~I)UoG0sGoG1sGoG2sGoG2)U~JsGoG4sGoG5sGoG6sGoG7sGoG8sGoG9sGo.0sGo.1sGo.2r)vOr)vO
sTvOBr)vOCr)vODr)vO=VvOFr)vOGr)vOoxVvOndVw1r)w1sTwsr)xsr)x5r)vPr)w,r)w,sTw,Br)xtr)z7r)xur)ylr)ylsTylBr)ylCr)x?r)x?sTx?
Br)_Cr)^.r)yRr)x[r)z<r)_mr)|pr)xKr)xKsTxKBr)xKCr)xKDr)xK=VxKFr)xKGr)xKoxVxKndVxKJr)xKKr)xKLr)_Dr)|1r)|2r)|2sT|3r)~Hr)|
rr)n%7r)|sr)|ssT~Ir)~IsToG0r)oG0sToG1r)oG1sToG2r)~Jr)~JsToG4r)oG5r)oG6r)oG7r)oG7sToG8r)oG9r)o.0r)o.0)WvOrKw1rKwsrKws)W
xsrKx5rKvPrKw,rKxtrKz7rKz7)WxurKxu)WylrKx?rK_CrK^.rK^.)WyRrKx[rKz<rKz<)W_mrK_m)W|prKxKrK_DrK|1rK|2rK|3rK|3)W~HcXvOcXw1
cXwscXxscXxs)XxsBcXx5cXvPcXvP)Xw,cXxtcXxt)YvOwVvO)Yw1wVwswVxswVx5wVvPwVw,wVxtqkvOqkw1qkw1zYw1Bqkw1Cqkw1DqkwsqkwszYwsBq
kxsqkxszYx5qkx5zYvPqkw,qkxtqkz7qkxuqkylqkx?qk_Cqk^.qkyRqkyRzYyRBqkyRCqkyRDqkyR=ZyRFqkyRGqkyRoxZyRndZx[qkx[zYx[Bqkx[Cqk
x[Dqkx[=Zx[Fqkx[Gqkx[HyLvOyLw1yLwsyLxsyLx5yLvPyLw,yLw,qlAw,ByLxtyLz7yLxuyLylyLx?yL_CyL^.yLyRyLx[yLz<yL_myL|pyLxKyL_DyL
|1yL|2yL|3yL~HyL|ryLn%7yL|syL~IyLoG0yLoG1yLoG2~&qbvtm2cvSvtm2c(ydmJ^>p<uXTeysuXTe_HsQeys sQc~LnT~M_3G(ugGMmXcsQugGMmXp
qFC^=*An9nppCt5m2qVsSPo6AvOmsw1mswsmsxsmsx5msvPmsw,msxtmsz7msxumsxuqlylmsx?ms_Cms^.msyRmsx[msz<ms_mms|pmsxKms_Dms|1ms|
2ms|3ms~Hms|rms|rqln%7ms|sms~ImsoG0msoG1msoG2ms~JmsoG4msoG5msoG6msoG7msoG8msoG9msoG9qlo.0mso.1mso.1qlo.2mso.3mso.4mso.
5mso.5qlo.6mso.6qlo.6Bmso.7mso.8mso.9ms|umsp91msp92msp93msp94msp95msp96msp97msp98msp99~>0~>1~>2~>3~>4~>5~>6~>6qlp.6B~>
6C~>7~>8~>9msrR0msrR1msrR2msrR3msrR4msrR5msrR6msrR7msrR8msrR9msr$0msr$1msr$2msr$3msr$4msr$5msr$6msr$7msr$8msr$9mssD0ms
sD1mssD2mssD3mssD4mssD5mssD6mssD7mssD7qlsD8mssD8qlsD9r7nZr7nZql1nor7noql1n%r7n%ql1oGr7o.r7o.ql1o.Br7o.Cr7p9r7p9ql1p9Br
7p.r7rRr7rRql1rRBr7rRCr7r$r7sDr7|*r7|*qlzs0Br7zsr7pIr7ubr7vGr7y^r7y^qlzs6r7^ir7_Or7~kmspI0mspI1mspI2mspI3mspI4mspI5msp
I5qlpI6mspI7mspI8mspI9r730r731r732r733r7p,r7^6r7^6qlub6r737r7|,r739r740r741r742r743r744r7^<r7|Or747r748r749r7~mr751r75
2r753r754r755r7qMr757r758r759r760r761r762r763r764r765r766r767r768r769r770r771r772r773r774r775r776r777r778r779r780r781r
782r783r784r785r786r787r788r789r790r791r792r793r794r795r796r797r798r799qsnZqsnoqsn%qsn%ql2n%BqsoGqso.qsp9qsp.qsrRqsrRq
l2r$qssDqssDql2|*qszsqspIqsubqsvGqsy^qsy^ql2^hqs^hql2^iqs_Oqs~kqs20qs21qs22qsyZqsvwqsy7qs~lqs27qs27ql228qs29qs30qs31qs
32qs33qsp,qs^6qsw.qs37qs|,qs39qs40qs41qs42qs43qs44qs^<qs|Oqs47qs48qs49qs~mqs51qs52qs53qs54qs55qsqMqs57qs58qs59qs60qs61
qs62qs63qs64qs65qs66qs67qs67ql~l8qs69qs70qs71qs72qs73qs74qs75qs76qs77qs78qs79qs80qs81qs82qs83qs84qs85qs86qs87qs88qs89q
s89ql290qs91qs92qs93qs94qs94ql295qs96qs97qs98qs99qs99ql3nZrMnorMn%rMoGrMo.rMp9rMp.rMrRrMr$rMsDrMsDql3|*rMzsrMpIrMubrMv
GrMy^rM^hrM^irM_OrM~krM20rM21rM22rMyZrMvwrMy7rM~lrM27rM28rM29rM29ql330rM31rM32ql332BrM32CrM33rMp,rM^6rMw.rMw.ql3w.BrMw
.CrM37rM|,rM39msp,0msp,1msp,2msp,3msp,4ms~Pms~Qmsp,7msp,8msp,9rM~mrM51rM52rM53rM54rM55rMqMrM57rM58rM59rM59qlw.0rM61rM6
2rM63rM64rM64qlw.5rM66rM67rM68rM68qlw.9rM70rM71rM71ql372rM73rM74rM75rM76rM77rM78rM79rM80rM81rM81ql|,2rM83 r?tKm|rM83ql
|,4rM85rM86rM86ql|,7rM88rM89rM90rM91rM92rM93 qJrM94rM95rM96rM97rM98rM99q?nZq?noq?n%q?oGq?o.q?p9q?p.q?rRq?r$q?sDq?|*nHE
Gs$nSx*quoyq?|*nn_bnSx*quoyq?zsq?pIq?ubq?vGq?y^q?^hq?^iq?_Oq?~kq?20q?21q?22q?yZq?vwq?y7q?~lq?27q?28q?29q?30q?31q?32q?3
3q?p,q?^6q?w.q?37q?|,q?39q?40q?41q?42q?43q?44q?^<q?|Oq?47q?48q?49q?~mq?~mql^<1q?52q?53q?54q?55q?qMq?57q?57ql^<8q?59q?6
0q?61q?62q?63q?64q?65q?66q?67q?68q?69q?70q?71q?72q?73q?74q?75q?76q?77q?78q?79q?80q?81q?82q?83q?84q?85q?86q?87q?88q?89q
?90q?91q?92q?93q?94q?95q?96q?97z*noz*n%z*oGz*o.z*p9z*p.z*rRz*r$z*sDz*|*z*zsz*pIz*ubz*vGz*y^z*^hz*^iz*_Oz*~kz*20z*21z*2
2z*yZz*vwz*y7z*~lz*27z*28z*29z*30pq21B~oBn(n5yYx:Sponnq2KU;MF&s9BnB;F&t*&nTFpys:q,nk~wnB^As:q,nkBwpAAnTFwCmoUm9moUn+dm
M?nTF&oNZAnTFwCmo(DnnPnnNJnRPpyPnnNJo%s:q,nk~wnBEgs:q,nkB<m^nkB~wnB>Tq%m^nkB<q2nNnXm^nknE^qp8*rSAzanEsuvYn(n>EmwYn(oNn
9QPr4oKUoKpcNDwpK(m.n>w&q2KUm9ZEn5dmTq,Qdm0mJKpcoNTmanTFvHm^EoKm<dq,moA>|<sum2A>Pn(moA>v[ohGozsun+oNZmw m&pcdq%yFQohA>
|<suE|<suwYTmaoh?<mhSxa~wnz<m&mwJmUNn2UQdo_mtUQdotF<Pnnm0m2yaWwpDnnm0m2yaW<Pn+dm^nkKPm9oNIuqPm<o[suyxrosuyxn>&Jn(dnGs6
UWr4m^m9YnRKn+oNnunNozsun+q(u!Qdo_wDpcdmon5rou5>nPm|dttq(nJQn>OQp8mayunBn+dmoImjwYTmadmoOQohmo~zYn5oNYqUv[GoKsuEQdq,%A
wYot%A>mwKNmLNoNsXr4m^pgoNJn(p8B*YnRy_n+dnGsum9n>w$dq,n(oNmonB>m^nkoNYnRotQoNzbnE>L~Dm9oNAQp8skQpdm(SpoBohmoUn+o[q%m^n
k~wnB>mh_PzhTnXLmUohnGn5p8Bnnm^y8>KnBnkdn|Umjzask%A>Kn(drnzInRp$Fq%m0m2yaW<v8ohmo~zy_n(oNmMEpumgu!QoNwiohJvH|<uBmgsunk
t*mVo[Uohmh_PwUmJNJAQn>mgsuEQTnXMFpynGsuEQp8BqUMsksPn+oN|[ohnGn5doKm<UQs9mguBHr4oKUn|^qdmT*A>p!n5dnEn5oNGK(m.nTVntoNGo
zUnTBnXWsun+n>AoKsu>?n(dm&UQoNsXu!Qt+r3zanPp$Qn>Uzap*m!nRv[mMxhoNp$Em^>Pmwp4n(dm&~zq2ozn+dtr^qp8Bu!Qdtr>oKsunkdm^ohp?s
um9olNJUQ<mOoNGp4n(oNSm9p8<teQoNGmUpdm(SpoCohGKU;m^nkBwpZ<Yn5v+nNKu!QoNsXm9oNn2sum2_Pq2otQs9rBAzap*EoKn+s9Bo)nRy_nCnTK
p!AQ m&mwoNrOnTBmVp8p*n5ds:rdm9oNDmUBnXMskAnWqwskoz-TmQ>oKnhmgsuyxs9HmadoKUotQrPUnTUmUAwYZEn5p8x(wYqysum9p8BmVdn|UQq(p
!AQdot<qy^qoNm.D<?u8AwYJ^pQdmM? yF>rSAn+oNsXsum9ohYn(dnE^qoN*S*AQdm^ oKsum2nRN?<q2xjwCmTPp8^7rdm9p8~wnzAQoNnGr8B<nGs6^
qoNsXn5^tUwYn2pcoNSwpmoAQpFr8dnEsuyxm9p8Bm2A>R~DJAnkdv8dmMrOyaPoNrSOmJq2mUoNp?E_PKn+oNsXnXm^pgp8BsunkronXKpcoNJn(oNGmU
v+m<oNsX^pn+oNSmUoNz1q(Untohot%AwYSmwoNnuMdm^ohmh_Pp$wpDmadmo^pQn>n+F&p8BnRm^nkBxaB*YnRoKnhE^qp8p*^qdoKn5p8sknns:m$n+r
PUWOQoNp?^qp8nBzasu>moIQq(p7mTWeFoOmCUwYp4QoNAQdnpQt*(t*r4nGnmx:SpomEMx(nsWmaoNJ^QF&oNJnB>LnBwYp?pcoNwU>q2p4Am^wYYn(v+
sum9oNGKmwn>mg>q2vXdoKsun+m&mwdnGpcn>mgsuwYJman>U>Kn+dp$nkm^>KUmUn>map8trpcoNn2^qdm^m0m2nRm&pcn>EsuEQrPm9oNp?sunkdoKu!
mJMBsu>q2oKm!nRTnXGm(<q2Kn|>trUtrsun+oNn2zaGmlFn5dm0suyxoND&p8&^QGp*mwt*Upcp8~wnBzaFnsLn5oNmhEyxp8sk<KpOn+oNYn+dnGsum9
n>w$rPUWOQdoKn5dmjnkdnGE_Pq2oKsuEQp8trsuwYmhEn+doKm<ds:PdrnU?wYyF>mOoNGp4n(p8FnB>q2GpOr4yFmUt*marPUntoNnuMoNnGn5n>su>K
mwoNGoz^qoNGKnB>rOw$dm&mwq(UQoNSn5dnGmwdm^m9Jn+oNsXmadm0n5oNsXUmUoNmopcoNJ^pQs9mgsu>KnXRp7qZDd?>n9QoNYnRm|nRm0E_Pm&EEz
an>w&MnXmoInRwU^qq(n|wYnXmo~DnG>rnwYnRmoOQt*UQp8VntdnSQurm9nTUnLdmMoNrOnXMskA,owm9n>AQ^tAq7m(Spo;NDmadn9&p8p*n5dmTP|^m
UdnSwCq,_emUdmjQoNmoUntoNDmwt*su>?MoNGuqKrn^qv+Unsqy>q2ozsun+dq,n(dn9nsKUntromUoNmonB>q2ntdm^nkoNGoK^qoNx*QoNmoU>m|M~w
wpp?^qdrnnkn>vHq2xjmjza~wygmg^qoNGoKsunkoNJAnkL^QmadnSw$oNGozEEwYm.Qd?m9ohnGn5n>n+t*n5oNnuA,oJTNniSoNsXsuzIA;y_n(rPnB>
|<mwo[su>n|su>nJo[Um^>oKsu>rSAr4nGsuEQdnEsu>uM^qdmTn(t*nX?AQs9m(Am^wYozUmQpcn>mgsuEQp8~wm9p8p*wYZAQoNKmUs9Bn+o[n5q(Un+
rPmaoN|[nWm0Am[rPmVp8trUQoNrcQt*nBEQrP^pQdm0sunk^tU>Gp*^qoNGKm<q(n+dm^>q2otn(nR|<T^twpTn5drnpcdn|n5oNGozsuwY|[nHEmrxho
NZUQdnJ&p8nB_8Un+oNAzasu>|<su_8q%^QVnRPsuQoNGKn5q(pct*nBToNTmadn|sun+oNsXm<t*nnrnntm0^tUnWmf^tmUoNp?><n9QdnsnRmTQt*nno
am!!d?<?QoNnuAnTnvnUnh>moIQdn|^qoNGsu>Ysur4s!Q,WsFMmieCo>rPUQrPmwdoK^qdrn^qoNp?;EnJnLt*U>WU>tr>nE>LnXMnRmQ^qdmj>q2sun+
oNG<monsmoOQ^tq%mQ_hYoN<PnRnSQq(nsMm9p8<m^QdnGnXKnRv[o[r4FAQs9HmUpdm(SpoFr^<nXKnX_PmQ>?wYYnRmTdm|nRrd>m&E_P?wpnuwpJAnk
p8n>w&moInRmhn>E^qq(n|>Kn+oNsuwY~DJsu>s!QdmonXs_Nzbrn^qoNnG>WU>rn>R~DnRmQ^qq(m9oNGKpOm9oNsX<mo~~su_8mUv+<LnRnSQq(nsMBr
4Rm9p8xansMsk<nGTq(P_en(B<V^pQpq^=MmqyYT|And_TMsFr6p[))pAndzNndm(m]nundnLnboKAA=qZcm^nkr+pd)vJm]mqtUnduD)E)uN~=m]xEcwT
m(ndm|cnGK_VwNE~R^juLoX^jAaTnNSnnmSOZs7Cs7Qs7XmsZmsCmsQmsn)VZr)Cr)Qr)n)~uq^Cq^Qq^n)oscn&_2Q_2n)UZsGCsGQsGXmsWZmsWCmsWQ
msWn)UossGn&sGIQsGIn)wKq2ct|^pn)|J^pZncWn)^pCsG~usGEQsGEn)UIUZsGIUCsGIUQsGIUn)MZocCocQocn)KwwG|Au]q+Wq7pHYyVy&pH)nqwTH
Tp5p[)RpHnqmos<p5SrjnqHqev7)X_5p[nqnLzYuLoPwNne+ywBnzSnnzQo6mSm9NnRuqS_8xaB>|[>p4pVDt5nRKq,pVJnsHpOpVW<Zns~wnXmYri>UWn
Xn9pF<VnXn|(t*<WngD<<nsOnsnX_P>ndtjCx%sEqDs;oUqDs;^^mEsf>oU-^^mEsf>sE-oUqDr~w6pqA.q,m(Wo6Hv[qrqd oKEBdoKowq(IBq(IVdotn
KdotUVq(nKq(UVdoKBdoKVdotIBdotIVq(vfBq(vfVdotWBdotWVq(Uqwq(Uo9q(|Wq(OVq(Iqwq(Io9dotBq(o9q(WBq(WVdotqwdoto9oC&^n_6zQ~Dt
TAnXmTnXm(~DmTnXmj~DotnXQm(nXp$nXHmTnXm^nXCm(~DCm(nXHyCnXoam(~D$AnXyCnXAnXXAnXx)nbqxnWsFqDnKrCOq_niq_m(VrCUn(eHmUe?n5n
7m~ q8mc$mUwmmoqwnWEEBrisF|onkdq8mc$Iqwetrnk^En|nkohTrFVu;nUen9VeFAIBdq8Sugowdm&EJ,Uqwdq8mcNtG<IqTYn(^EAnhrisFqDSOV mq
Gc+A.sWns^f=oPyDz1spqOSo[p7qKSp8oTnp&sp^VyBnp&So[m9nHoTnp&spn[Lnp&p1oP_R q8mcLnK^Es!nsHLnRsqD-S|k;HLnRZWJ $AJdHNnKoNQm
CdrFqwoNrOJncVo[XmgEJnWEowdm&EJqDqyEBd?nXuvp8nhrisF m(ImcLpmNn9Gohn9GeCUn(qDmovfJwmXWVfnLWVePnK nuWBu2mQmcn9p1+ztCxEp)
tTmgEJen|EGt+m:emTUJ|ds!O~xOs3m(WJes]nzepwJetTqwex:Bq_m(^8t2ezQJeFAJep$JetTWBq_WMeVWJpq2B0.m&n2FAse|>^YMn>|^v+ncmMnXZq
(Pt*o[s9^tdnRKd~5dyKridnXYnXLzVdHPoNY^EtIdOwYurd_QnRY[Mn>|^v+ncmMnXZq(Pt*o[s9^tdnRKd~5dyKridnXYnXLzVdHPoNY^EtIdOwYurd_
QnRYbwNtEyD|?y8Vp%_fpLsqnGp%oZnGp%y,nGp%o|^zsImXEp%of^zr+E^zbq[o+xA;mvcpixA;mvcp^xA;mvmRu5bw6mbo4 AIVuL_%na OHpq6zt^^A
obmSPtw)Yo%P)oa)sYMnqxgn&nT_5sTsTFp5p[)Yo%qe<TzAsrpHpHnq|[ohN)xgn&ohpHNpHNnqwTLq+LnqLzup5LnqDLnqTLzup[LHq+Krj)Yo%K)Q)Q
G|A|Anqxgn&ohG)nqXrjnqGHnqTo?p[v]pHYpHYnqTmop[ZnqYo%Tzbv1nqmQmvmeTmoxYz%zYnqZmop5Sp[Z)Yo%tTu]ZzYS)v])v]S)xgp]v])v]q+v]
Sq+WqloxHw:m|n7Yndv1YndT=tT=RnG~R_RnW&^n_6o_|FrQrhNnz!osptulnzs:mjna^smvmeq8n&mincSs:mjnatH<vH|PpV|fnNdnsOnsWnsWd>r4vY
dOxDdwr<I|fInNdInsI>IwrnXmidnXU<U|fUnNdw&^pnRr8rPrPnRAx3_Pm2Rdmqommem2Rdm2dmqommem2ncnREnRAnXO~DoNGdUqVrPUnRqVdOm2|^Wd
mCdE<I_[dUIq3^=x;m=nm_Hp+msmlpLojrh|C2pYw|3pYw|4pYw|5pYw|6pYw|7pYw|8^smvme|C1|72|74|75|76|78pq40.TnN~zImF_s|]zzq%ImF_s
avTnL(ni;odoy_2mF_saKo2*u<,Cx$nPL_?pqB.VnBTyCm&S;xA;mQngn8qxnWolNm(yeo880E.TnN~zCmyvOmzw1mzwsmzxsmzx5mzvPmzw,mzxtmzz7m
zxumzylmzx?mz_Cmz^.mzyRmzx[mzz<mz_mmz|pmzxKmz_Dmz|1mz|2mz|3mz~Hmz|rmzn%7mz|smz~ImzoG0mzoG1mzoG2mz~JmzoG4mzoG5mzoG6mzoG
7mzoG8mzoG9mzo.0mzo.1mzo.2mzo.3mzo.4mzo.5mzo.6mzo.7mzo.8mzo.9mz|umzp91mzp92mzp93mzp94mzp95mzp96mzp97mzp98mzp99mzp.0mzp
.1mzp.2mzp.3mzp.4mzp.5mzp.6mzp.7mzp.8mzp.9mzrR0mzrR1mzrR2mzrR3mzrR4mzrR5mzrR6mzrR7mzrR8mzrR9mzr$0mzr$1mzr$2mzr$3mzr$4m
zr$5mzr$6mzr$7mzr$8mzr$9mzsD0mzsD1mzsD2mzsD3mzsD4mzsD5mzsD6mzsD7mzsD8mzsD9rWnZrWnorWn%rWoGrWo.rWp9rWp.rWrRrWr$rWsDrW|*
rWzsrWpIrWubrWvGrWy^rW^hrW^irW_OrW~kmzpI0mzpI1mzpI2mzpI3mzpI4mzpI5mzpI6mzpI7mzpI8mzpI9rW30rW31rW32rW33rWp,rW^6rWw.rW37
rW|,rW39rW40rW41rW42rW43rW44rW^<rW|OrW47rW48rW49rW~mrW51rW52rW53rW54rW55rWqMrW57rW58rW59rW60rW61rW62rW63rW64rW65rW66rW
67rW68rW69rW70rW71rW72rW73rW74rW75rW76rW77rW78rW79rW80rW81rW82rW83rW84rW85rW86rW87rW88rW89rW90rW91rW92rW93rW94rW95rW96
rW97rW98rW99q:nZq:noq:n%q:oGq:o.q:p9q:p.q:rRq:r$q:sDq:|*q:zsq:pIq:ubq:vGq:y^q:^hq:^iq:_Oq:~kq:20q:21q:22q:yZq:vwq:y7q:
~lq:27q:28q:29q:30q:31q:32q:33q:p,q:^6q:w.q:37q:|,q:39q:40q:41q:42q:43q:44q:^<q:|Oq:47q:48q:49q:~mq:51q:52q:53q:54q:55
q:qMq:57q:58q:59q:60q:61q:62q:63q:64q:65q:66q:67q:68q:69q:70q:71q:72q:73q:74q:75q:76q:77q:78q:79q:80q:81q:82q:83q:84q:
85q:86q:87q:88q:89q:90q:91q:92q:93q:94q:95q:96q:97q:98q:99rXnZrXnorXn%rXoGrXo.rXp9rXp.rXrRrXr$rXsDrX|*rXzsrXpIrXubrXvG
rXy^rX^hrX^irX_OrX~krX20rX21rX22rXyZrXvwrXy7rX~lrX27rX28rX29rX30rX31rX32rX33rXp,rX^6rXw.rX37rX|,rX39mzp,0mzp,1mzp,2mzp
,3mzp,4mz~Pmz~Qmzp,7mzp,8mzp,9rX~mrX51rX52rX53rX54rX55rXqMrX57rX58rX59rX60rX61rX62rX63rX64rX65rX66rX67rX68rX69rX70rX71
rX72rX73rX74rX75rX76rX77rX78rX79rX80rX81rX82rX83rX84rX85rX86rX87rX88rX89rX90rX91rX92rX93rX94rX95rX96rX97rX98rX99q;nZq;
noq;n%q;oGq;o.q;p9q;p.q;rRq;r$q;sDq;|*q;zsq;pIq;ubq;vGq;y^q;^hq;^iq;_Oq;~kq;20q;21q;22q;yZq;vwq;y7q;~lq;27q;28q;29q;30
q;31q;32q;33q;p,q;^6q;w.q;37q;|,q;39q;40q;41q;42q;43q;44q;^<q;|Oq;47q;48q;49q;~mq;51q;52q;53q;54q;55q;qMq;57q;58q;59q;
60q;61q;62q;63q;64q;65q;66q;67q;68q;69q;70q;71q;72q;73q;74q;75q;76q;77q;78q;79q;80q;81q;82q;83q;84q;85q;86q;87q;88q;89
q;90q;91q;92q;93q;94q;95q;96q;97q;98q;99rYnZrYnorYn%rYoGrYo.rYp9rYp.rYrRrYr$rYsDrY|*rYzsrYpIrYubrYvGrYy^rY^hrY^irY_OrY
~krY20rY21rY22rYyZrYvwrYy7rY~lrY27rY28rY29rY30rY31rY32rY33rYp,rY^6rYw.rY37rY|,rY39rY40rY41rY42rY43rY44rY^<rY|OrY47rY48
rY49rY~mrY51rY52rY53rY54rY55rYqMrY57rY58rY59mzqM0mzqM1mzqM2mzqM3mzqM4mzqM5mzqM6mzqM7mzqM8mzqM9rY70rY71rY72rY73rY74rY75
rY76rY77rY78rY79rY80rY81rY82rY83rY84rY85rY86rY87rY88rY89rY90rY91rY92rY93rY94rY95rY96rY97rY98rY99q<nZq<noq<n%q<oGq<o.q<
p9q<p.q<rRq<r$q<sDq<|*q<zsq<pIq<ubq<vGq<y^q<^hq<^iq<_Oq<~kq<20q<21q<22q<yZq<vwq<y7q<~lq<27q<28q<29q<30q<31q<32q<33q<p,
q<^6q<w.q<37q<|,q<39q<40q<41q<42q<43q<44q<^<q<|Oq<47q<48q<49q<~mq<51q<52q<53q<54q<55q<qMq<57q<58q<59q<60q<61q<62q<63q<
64q<65q<66q<67q<68q<69q<70q<71q<72q<73q<74q<75q<76q<77q<78q<79q<80q<81q<82q<83q<84q<85q<86q<87q<88q<89q<90q<91q<92q<93
q<94q<95q<96q<97q<98q<99s=nZs=nos=n%s=oGs=o.s=p9s=p.s=rRs=r$s=sDs=|*s=zss=pIs=ubs=vGs=y^s=^hs=^is=_Os=~ks=20s=21s=22s=
yZs=vws=y7s=~ls=27s=28s=29s=30s=31s=32s=33s=p,s=^6s=w.s=37s=|,s=39s=40s=41s=42s=43s=44s=^<s=|Os=47s=48s=49s=~ms=51s=52
s=53s=54s=55s=qMs=57s=58s=59s=60s=61s=62s=63s=64s=65s=66s=67s=68pqvwF0.otxdx0mSxkNpC|C2|73|74|75w_|C7|78oNnz!osme|C1e|
C2e|C3e|C4e|C5eoP|C7e|C8~&xgp]net5~6x0mSxgp]YneHmXAmCx0mSAqimsqPmssjms-zRIqi_2qP_2sj_2sdsGqisGqPsGsjsGsdsGs(cpo2cpo3cp
o4cpo5cpo6s7qis7qPs7sjyGqiyGqPyGsjyGsdyGs(yGuayGx&yG-8yG-9yGqi0yGqi1yG-K=teqiqBIqPqBIsjqBIsdqBIs(qBIuaqBIx&qBI-8qBUqiq
BUqPqBUsjqBUsdqBUs(qBUuaqBUx&coKqicoKqPcoKsjcoKsdcoKs(coKuaqBOqiqBOqPqBOsjqB_)te~[qi~[qP~[sj~[sd~[s(~[ua~[x&~[-8cmhqic
mhqPcmhsjcmhsdcmhs(cmhuan7Uqin7UqPn7Usjn7Usdn7Us(n7Uuan7Ux&n7U-8n7po1n7po2n7po3n7po4n7po5n7Oqin7OqPn7Osjn7Osdn7Os(n7Ou
an7Ox&c?qic?qPc?sjc?sdcmMqicmMqPcmMsjcmMsdcmMs(cmMuacmMx&pYUqipYUqPpYUsjpYUsdpYU-Tm]nGqicnGqPcnGsjcnGsdcnGs(cnGuacnGx&
cnG-8cnG-9cn9qicn9qPcn9sjcn9sdcn9s(cn9uacn9-RpHAqin4AqPn4Asjn4Asdn4As(n4Auan4Ax&n4A-8n4A-9n4Iqin4IqPn4Isjn4Isdn4Is(n4I
uan4Ix&n4I-TvZUqiyiqPyisjn4po1n4po2n4po3n4po4n4po5n4po6n4poKm]pvqi_jqP_jsj_jsd_js(cm(qicm(qPcm(sjcm(sdcm(s(cm(uacm(x&c
m(-8cm(-9cm(qi0cm(qi1qqIqiqqIqPqqIsjqqIsdqqIs(qqIuaqqIx&qqUqiqqUqPqqUsjcmgqicmgqPcmgsjcmgsdcmgs(cmguacmgx&cnUqicnUqPcn
UsjcnUsdcnUs(cnUuacnUx&cnU-8cm^qicm^qPcm^sjcm^sdcm^s(cm^uacm^x&ocIqiocIqPocIsjocIsdocIs(ocIuaocIx&ocUqiocUqPocUsjocUsd
cm&qicm&qPcm&-sYo_qiyUqPyUsjyUsdyUs(yUuacp$qicp$qPcp$sjcp$sdcp$s(cp$-_TyFqiwVUqPwVUsjwVUsdcs!qics!qPcs!sjcs!sdcs!s(cs!
uacmjqicmjqPcmjsjcmjsdcm|qicm|qPcm|sjcm|sdcm|s(cm|uacm|x&ryUqiryUqPryUsjryUsdryUs(ryUua^sqi^sqP^ssj^ssd|bqi|bqP|bsj|bs
d|bs(|buacpOqicpOqPcpOsjcpOsdcpOs(rKIqirKIqPrKIsjrKIsdrKIs(rKpo1rKpo2rKpo3rKpo4rKOqirKOqPrKOsjrKOsdrKOs(rKOuarKOx&n4-s
]-o_qin4-s]-o_qPat5~6x0mSxgn&mBUaotxdx0mSxgp]YnRY>WUpq2D.t5~6x0rVmkmBnRW>WOao81.otxdx0rVmkmBnRW>WnsNpqA9~nDm<nSYpCmSox
n)v2nmFqB_Wr6p6r)pXrypdohp6,qhohqBnTry,c$n7nSpCDoxDoxKKn7nSpCJqqL_WoxRHocn4z!n7ocohn4nTz!nTcmcJocz&n4z&z!z&erl(mht[n3s
xSz&fojoc,n4,z!,n7,ocoh,n4nT,z!nT,cmcJ,z!,z&oNep1mcTu;t*u;pY,ur,rKrKoxW RcmcNp8qB R,pX R,cmcKu;cqHnSpCmLs7)|XOnbnd=I=|
JndUndEx2nSpCEoxtt*IpCIn7nSpC^Ct|ndY=nbEnbXWsGohct|nbtt*IpCz8Hn7nSpCnbvfoxmLs7nbuNzRw]uMndWmLn4nzmInXnsnR)pMNs$*ncMn7n
SpCr4|f_]t,n&nTq3ztsOnPX n=qvugC*nm^^mEqvugC*nmn?qvugC*nmtMq*ugC*nm^^mEq*ugC*nmxfq*ugCyHmsT?q]DugCyHdv(n9-p+ugCyHo[nNm
Xds%d;oddo%odo[nNyIodc+whxfnlpc>TmZmJnlpc>orrxt|orrxnDdr1dpp>Wo9>q*c+^=tMnlpc>TmZmJnlpc>orrxt|orrxnDdr1dpp>Wo9>q*dm?w4
_R s^vxb$Im$ rVEoBboXqxbw% nL(Onr w6ay)$n3mv^>mSo>mTPoCo~(Un8o>mTv2oF,nGv2m<,nGPao8y7C.ZNn(m9y_nWx%qxvvmDAZmYohoszM,r^
r|z3M pyrkoNoszM,r^r|z3M pyrko[SA? pyrks9mDAZmYohosKobpyrkoNosKobpyrkn>mQDN;pyrkp8!obnJVYmo;pyrkdnJVYmo;pyrk|^YSnrobpy
rkp8!obnJVYwU,r^nUpkLmU pyrkdnJVYwU,r^nUpkLmU pyrk|^YSnrO,r^nUpkLmU pyrks9mDAZmYohoszM,r^r|z3M pyp+oNoszM,r^r|z3M pyp+
o[SA? pyp+s9mDAZmYohosKobpyp+oNosKobpyp+n>mQDN;pyp+p8!obnJVYmo;pyp+dnJVYmo;pyp+|^YSnrobpyp+p8!obnJVYwU,r^nUpkLmU pyp+d
nJVYwU,r^nUpkLmU pyp+|^YSnrO,r^nUpkLmU pyp+o[SA?,r^r|z3Mp8!obnJVYwU,r^r|z3Mn>TucpvnT!obnJVYwUdnJVYwU,r^r|z3MrCTRsHnsVY
SnrO,r^r|z3Mp8!obnJVYwUn<RsHnsGmDAZmY VYSnrnsZm;nswCmjVNnsmMzNs_BmDZo)<tuny<nJDm[TuqLmUuqKm<zv<otnLuqZownrn>zMB<mjZqyu
qKr|Zo6pym%nmtjsfmIRnN;qxnTmjnLpvfSnETnSfTwXnETLm]qx Zngm2^~uqn2m&r>Vm9NnvZngm2^~uqw$qynLuqnJDCm(monBeumq*qc>Cm(moKoln
JLzv<|WmTnLKnsSmDOnLYnnpv^~uqn9nLuqDq8En9nLI=oO?nLn8qbwDnmqxnWm!VmemUn+q(r|ZoxtNsfmIRnN;(wqr<_1m|ZNsP_l|Gm0Vm;qPdm0Vm;
sjdm.mQtD|(~|q(r|ZpVmqGq3~or=n5;Kr|s5dmMpkYpd%sPs[p6VnnV|oLNvosSUnLqk*Oz3Kn7p<mVS<mcOnLKmUcpMow|=uqr=nJSn9YsHo)qHp<mVS
Ax>mDOnLYnnpv^~K)q]sSnhTKq7!KzYmap$?q+GqZnKnLyznHmDZ_:mMpkYp8mjnLy_n>nETsSo[wXnETsSr)mjpkIYnnzD?s_MmjnLzv_enETmTs_TwXn
ETmTs_KsSUq]Vo)nnzD?YolMmjnLzvolSnETz5olTwXnETmTq+oXZmap$?q+syq]sSnhTKp[m2BmVSr%t2oTm]Cm(moK)nJDCm(moIx2otm&YtTAnTmjnL
zv_enETmTs_TwXnETmTs_mMzNq+n2m&r>Vm9NnvKsSUnLn7otm&YtTnnKsSUq]Vo)A,nETmTs_KsSUnLm9EnJSn9YsHo)<KsSUq]Vo)nnmMzNs_Dq8Eq]L
zvnnzD?YolSnETz5olr=nJSn9YsHo)olKsSUq]Vo)qHnSZt5mM>mcZmap$n9YtzsPr|n9>mcKr|z3MqBr|ZoxmqGqhmVr%|WYwTZm&YtTqH?p;<mcZmap$
n9Yq_r|z3Mwnmap$n9nvo%Kr|z3Mq_r|z3M o%Zmap$n9YtzsPr|?YolmcZmap$n9_:mcmqGmUv.Vn5YnnZmaYoOo0p:Zmap$n9nvo%nJDCm(monBMcnJL
KUnpZMYn7?p;nnr=nJSn9YsHo)qHTmQmT zD?s_MmjnLpvmMzNs_Kr|z3Vo)<nJLm<Oq8Dzv<nJq8Dzv<r=nJSn9YsHo)<KsSUq]nJq8Dzv<KsSUnLm9En
JSn9YsHo)<mMzNYnnPpczv<Dq8Eq]Lzv<Dq8Eq]LNnrr|z3Vo)<Dq8Eq]LpvnJq8Dzv<Dq8Eq]LzvnnKsSUq]Vo)<Dq8Eq]LpvnJq8DzvnnKsSUq]Vo)yg
ttzvAmHu3m,Zmap$?s_GttOnJq8DzvAmHu3m,Zmap$?s_GttzvygttOnJq8DzvolumoXZmap$?s_Gttnrr|z3Vo)olnJq8Dzv)m&nLyzdnJq8Dy_q(sSUq
]q8Yq(sSUq]nJq8Dy_q(sSUnLm9EnJSn9YsHYn7TmQmTqDr|nzqVmTSzv<Tr|nzOnJq8Dzv<Tr|nzOr>mQLzv)OSnr_enETmTs_TwXnETmTs_Kr|s5OVo)
A,nETmTs_KsSUq]Vo)A,nETz5olr=nJSn9YsHo)qHTmQmTr^r|s5OVo)olnJq8DzvolGttzvAmHu3m,Zmap$?YolGttOnJq8DzvAmHu3m,Zmap$?YolGtt
zvolGttOnJq8DzvqGumoXZmap$?YolGttnrr|z3Vo)qGnJq8DzvolTr|nzKr%Uw8sY|WmTKm]DtupHnkKq7As5pq3C.BYZyH(;s]mhs)o; p(LnRnuqyI<
wMm9nROXEInntRF&I~<&em.oanRpKEInntRF&I~<&em.oanRot$m:mMn>v4m^~<nRp!sPnp~<nRw^Km|mhudm.oanRKmQm^zxdmaniobtRF&I~<wCwRobt
RF&I~<wCnGm0I<K^Fm^uemaOr>mqn_udm.oanRS^|owtf$mV<qZmCpyxgI&s9mDGpyxgIwC_Grit2oTwCVvW_:m:pyxgI&q(^Fm^ xgI&q(^Fm^? xgI&n
>ArFm^uep!InL&n>?VmqmcmaOn2rF<OXEIAo%xgIwCpKEIAo%xgIwCma|=m2m^ xgIwCmaO$nk<KmTStfmQVtfs:nzm^ xgI&o[(pTtf*An[nLm:tfqym:
tfS^|pTm^ xgI&em&?,?VmqnXOYucm:m^ xgIwC$nk<m0o_nRDYnsn[<nGo?m2<KmjmMm^uemaniobwRobr=nsF$mDnnxgIwCsFu,$mD<TttyzpyxgIwCo
t?VnnTttyzwCrnmTr>wCp(w8sfq(&nGVtfnLmDowm^ xgIwCp=m:tfp!AotrGm^ xgIwCp!sPnp~<o%xgIwCn&m(D(oN*<rn?StfK&nGVm^ mfnsTttyzp
ymfnsr>mjsXm:m^ueGqS$m:m^uem:&|5nsqZmC&|5nsOXEInnr=nsrn?zxq(rmw8tfrn?Sn9Krmw8tfKmjmMMnrrmw8tfrnmTr>&|5nsK^Fm^?|5ob*nsK
^Fm^|5ob*nsYp(LnRmaOr>mqn_mcr=nsmaOr>mqn_I,^|n2So_mcr=nsxVmDmqnRKmjmMo_xVmDmqwCEmTFqSrit2oT^QyzRpym:wCpKEInnr=nss:nzm^
|5nsp(w8sf|5nsmU!wC*~<m9mU<sSGm:tfp!sPnpmMte|5nsp!AotrGm^|5nsEmFpyp!AotrGtfKYLm:tf*~<m9nrYLm:tfTttyz&|5nstRr>mQPsfn>^|
pTm^|5nsSv4tfnLmDowm^|5nsErnGm2tfqym:m^|5nsXnCpyKmTStfTttyzntmhw8sfdp(w8n9sSGm:tfTttyzqZYGm:tfTttyznt%AotrGtfp(w8n9p!A
otrGtfTttyzOS^|pTtfp(w8n9S^|pTtfGmDx*S^|$n+wCr3OS^|$n+wCEmFpyr3OS^|$n+wCOYucm:m^|5nsuDm^mMSo_mcnis3wRnsuDm^ manSmwduDm
coto%maO$nidot?_Stfm9mYF&&rPFp7otn9e*nsS?VmqSq(mTSm^ *nsm.^m xgI&q(mjmMm^ xgI&emfs3r=nsma|=m2m^|5nsmaLnRm.oanRn[oanRnG
Tp=LnRKmD&m:dm0sFm^ m9OmcnLqSOplDYobnLqS&en[pynLqS&enGo?%pynLqS&esFzcOmcnLqSOnXGmDG&|5ob*s3p!niTmCMm9py%m:mFqGn2rF<pbm
DG&ep!niTmCMm9py%m:mFnnotn9g*Ofn2rF<TRmCmDGwCr3wCsFIm.r3wCm.r3&ncGqVo%nJnp r3p:r3OmFp:r3p:m&n[olm&mhswmDGp:GmDx*mFp:nJ
npvvmDG^Q%p;m|nnr_n9mcI|0udmfo%r_n9mcI|0udn2YmFOmcI|0udmfo%n2YmFOmcI|0udTRmVOmcI|0udn[F&InzenGT%n9mcI|0Sfm0ozn9mcI|0ud
m0ozn9mcI|0udPmTGtSmcI|0spm:sPInnTm;OpmInLIm^n9spmaOr>mqn_o%Tm;OpmInLIm^n9spF*m2OmhmcnG^oF&Inzev[oJ&Inzem.F&Inzp8%p;m|
nnpKYmcI|0udr_n9pKYmcI|0udPmTGtSmcnGT%n9mcI|0Ss9mD$Myz&oh manSmwfm.PnSmwdm9%rFmcoto%F$mDnnq8nXsFu,&wCsFu,$mDwCF$mDnnxg
Ipyn2YmFOq%I|0plm.oO&yzo%PqGN*olyCOmcI|0udm.oO&yzo%m.rCKLnCpym.oO&pym.em.oO&yzo%oKfZOfNo%otn9g*s3M!sPpynLttnnm.F&Inzgv
[oJ&Inz^tHnjA,KLnCpynLttnnzQmhspF$mDA,KLnCpynLttA,YyCnPu2m9*nsnLmqnnZYx*Sq_s[&rCq,$nRF$mDnno%YFpgmcnGT%mMMmDI&em9%v[tS
mc*mMF&I<YFpgmcn[mMMmDIwCm.pgmcn[mMMmDI&enGT%mMMmDI&emanp^;YobmYn2ot?ev[Oquo_mcnGo?m2nnmYn2ot?epbv%o_mcwR mYn2ot?wmRmC
v%o_mcnrsgmYn2KoO<YFpgmcmanp^;YobmYn2ot?ev[Oquo_mcnGo?m2nnmYn2ot?epbv%o_mcwR mYn2ot?wmRmCv%o_mcnrsgmYn2KoOygqCKo%m.pgu
dYFpgspm.nzn9np manpnTyzm|fm&G!p:m.^me$niEOspv|*mhmc$niEOSfm.mho_Ufn[mho_UfnG^omho_pl%qyOSfm.mho_Ufn[mho_UfnG^omho_nXp
bv%m^ sXdm.Fn9sXOmcOnXr>mCtfny~<obPolq8plGolm.eoKwns3NnRK^Fm^?|5obm&SnsK^Fm^|5obm&SnsK^Fm^?|5obotn9q(^Fm^|5obotn9q(mTS
m^ otn9s9mDG&|5obotn9pqA.s]mhs)o;u3m,ogpp=oXogpp=wKogpp=q!;wKogpp=ySmeogpp=|Jogpp=n=mQrnoOnMcn?mQrnoOnM^srn^>nDp1D!ugG
Nm]nunWmam]qyGNm]C|=)mQrnAnOFmCUmQqi^tmCUmQqP^tmCUmQsjqhm2m^ueojcq>vWoyoCAnim!twmjC=Bpz~vw|pppu?|Tcut-pppu?|Tcn~popppu
?|TcoZ-pppu?|TrrnE-pppu?|Tco|-pppu?|Tco|-r>tgFmQTmln1coZ-r>tgFmQTmln1pXnWm%ew$?Vnn!?fBnzSs<nWm%qhnWm%ew$?Vnn!?fBnzSp[y
.nWm%qirim%qPctjM|qm,m&nzyNwXnmru,rBPdy9nmy9mJm<doFn4oOm!mIm<doFtU%P m<doFcvQqD&purBPey9nmCmUMpymMM=C~zmMM=w$?Vnn!Tt8n
zS)m_(wqpgm^ !Tt8nzSy&nwmM wXnmWnUm,wXnmvbwXnmvQ wXnmofrpwXnmo|^zrpwXnmy2-qyu9mEwXnmo|p;-oZrpwXnmo+^Vu%-ofrpwXnmXohOnG
o=cqnpvnGo=oCn*m,XohOnGo=n7_ppvnGo=yfq0o!cynpvnGz(m<yf^Ao!erkyf^Ao!ep+yf^Ao!eoFyf^Ao!erHp+yfEgo!yU&ohOnGo=yfq0o!cpx-mq
mwmEpvnGz(oFyf^Ao!pd%t7pgmcpvnGo=cq8ImEpvnGo=_jnGz(o!n4tBohOnGo=oCLnhmFohOnGo=yfq0o!cq>pLWnUm,_t=peohw$=vQohw$=xwohw$=
o|nGt7ohw$=y2-qyu9mE_t=o|p;-oZ$ohw$=o+^Vu%-xwohw$=Cw*mi,~Bn>PmQnLGninN,~Bo[mQo_nSqio[mQo_nSqPo[mQo_nSsjqhmim2meTmQo_nS
qio[mQo_nSqPo[mQo_nSsjoCx%AuBMmXpt nDdy9Gqidy9GqPdy9Gsjdy9Gsddy9Gs(_3G(nHEn(c_bp*n(_3Gs$mM=_bmM=p*G(,Lm!csQ,Lm!_3Gs$pA
mjS=_bpAmjS=Cx%ykn>?Cx)n9o[m9Un9n>?Cx)mMSv|nsMuEAn9p8uEAn9-S?Cx)n9ncCCmuS?Cx)n9dnSUmQc%rnsXIAsgm<doFoCx%mYmVdvB^t~|n>m
&%pFsQdoXsfxj>yWsfxj=|>mnZ*mYn7nKmVm]ZpdI*m]m&v]m]mnT=pfqjm9mYcn2pfqjm9mYcorC;pvnG,|gepv,|gpYRpYqtcuTsZpYqt,|gdm<cukr9
qin>thoKqPn>thoKsjn>thoKsdn>thoKs(n>thoKuan>thoKx&n>thoK-8n>thoK-9n>thoKqi0n>thoKqi1cm(m<tTmMMM=r=Bm9zxMM=_boJ,mMMM=uF
pu|goCx%oFnHmLdm<nHmLdrBv[n&n>NmayuosZn&oOm]Po*mIqxdm<oycvbPo*mIqxpXLm:S*mY m<doFrKmG yXyCoTp1nuMPdmfcm^rFsYxx)q>Vm:n7
nkIq>Vm:yf>o!ocovtfo!n7nksFovm^yf>o!qhnhAyf>o!cxxnnpMtrC? mQr>dsFpMtrC? wXnmq>qLmcmQr>n7nkIq>qLmcwXnmMovm^ mQr>n7nksFo
vm^ wXnm~BPpmpMtrCTn5nWn5 r_mTna;pMtrC?gsFpMtrC?gpMtrC? m.xkUnaqidsFpMtrCTn5nWn5 r_mTna;pMtrC?gsFpMtrC?hm.xkUnaqihm.xk
UnaqPhm.xkUnasjoCmqIn)pEGmDI*nWnWm%^tnWm%n7_pBr)nCG)nJnuTnhoCnpVm:n7C*wqnhoCnpsmnhcnjCnwnhpdmDw)Tnhdp>nhn7C*wqpmp>nhcn
jCnwpmwXm<(nhpdnixZPu>mMp1KnBV*nWnWm%d_bp|PnBC>wK_t>w)mVAmMoMqxv+nUm,_t>peohw$>vQohOnG,~B oFgm<dxwohOnG,~B oFgm<^tt.nM
n7mDndKmDuOo8zt|9 q8CmIpv?nao;qitXqPtXsjtXsdtXs(tXuatXx&tX-8tX-9tXqi0tXqi1tX-pItXqi3tXqi4tXqi5tXqi6tXqi7tXqi8tXqi9tXqP
0tXqP1tXqP2tXqP3tXqP4tXs(0tXs(1tXs(2tXs(3tXs(4b(r>y.mXmIpv?nao;qitXqPtXsdtXs(tXx&tX-8tXqi1tX-pItXqi3tXqi4tXqi7tXqi8tXq
i9tXqP3tXqP4tXqP5tXqP6tXqP7tXqP9tXsj0tXsj2tXsj6tXsj7tXsj8tXsj9tXsd0tXsd2tXsd3tXsd5tXsd7tXsd8tXsd9tXs(0tXs(1tXs(2tXs(3t
Xs(4psx%|9nTUmhCmITyEnk>nG^oSnk>PmXnzEm&a|9nTUmhCmIm0sFm^pq9A.m^Y*ohn5m2mIrTv~=|?y8Vp%_fpLsqnGp%oZnGp%y,nGp%o|^zsImXEp
%of^zr+E^zpqC.v[Oquy6 |;$apbv%y6 o]m9Lnv|;$qqn5pC|;$q^%$Lnvo]r4Hn5*q^%$anG^oquy6~ZqhtBy>ocImQ^]ogm|m2coKyxmiu<oCo~R%nB
p;msqjmXcntnJmhnar6ucnLn8rmnmn2trCmMVm9nimctKm.Snjnacm.m[Gx==Yrm$FnwNnip1(pfnz=Pm9n+mjna^sAnLoC&?CnmnULDn8z]cpOmVmicn_
LoUmimsDV_a=mQm0nz=mQmhr>_a=tx=soYoCo~m9nacm9n2o9Om!p6UmMnicnLnN=n2CImhVm9nip1n,mEwXqZUnapdAm$micm0yy&oCuvm9nip1K(moIv
2p4$m2min7TRvY$pdm!mVYqhtBNnip1mQmhDx==mTW mD_l~tcwXP&S=x*n8sgm&~vx=wAmFSn7n9pLpEoONnip1m9xFnkmXpdoOu4rymVU!qh_I_STNni
mcmDmBnzTmioC&r>_a~$m&nzUmQq^u4mV~$mwmV~$m.MovmoMmXoCy?o_U$pXUn1o*Nnip1p4$m2n8w~m^o?mimsCCn5UmTnacnkBm;npmoMmXcn!nmWoO
nLn7(Kmic(Nm2cn2p!rOmQp6nym9micm.MMmiq^Xm(nhnan7Em[_ax2p<PpT=Hn1NniSoCmtm0naoCnSrSmQqhAoTUmQmsGorVptoCmtnp_a=py~)m[G=m
.FnPCnwmMnis8mlm!micn_SmFmipq~oCwAp3mqmEmwqUq[&q0mrs3n~q0oZe^Peo|rCowm9eqJu2(=z1mcq[&q0mrs3n~q0oZe^Peo|rCowm9eqJu2(net
Cp]TmfYoy y[nEaTmfYoy r~^Ppq8^=m^uDm^n:mIn,mEs*t8ritId_8s9dpVnRJq(rop8oNd~~zVurn>o[dnXVv+^ErPtzy*t8ritId_8s9dpVnRJq(ro
p8oNd~~zVurn>o[dnXVv+^ErPtzbmV!n&uHt8ritId_8s9dpVnRJq(rop8oNd~~zVurn>o[dnXVv+^ErPtzy*t8ritId_8s9w_nRJq(rop8oNd~~zVurn>
o[dnXVv+^ErPtzbn,mEmV!n&uHol^8~r|_Fsweu*p:~xt+xIu2||P_Xu;rCwm_Y~!|dz$wnn>mpol^8~r|_Fsweu*p:~xt+xIu2||P_Xu;rCwm_Y~!|dz$
wnmbCx$s*<oPCtIdtjGdtjJq(dtjNd~~zVw_So[dnXVv+^ErPtzy*t8ritIw_Fw_pVnRJq(rop8oNw_PzVurn>o[dnXVv+^ErPtzbn,|:Cx$s*ol^8~r|_
Fsweu*p:~xt+xIu2||P_Xu;rCwm_Y~!|dz$wnn>mpol^8~r|_Fsweu*p:~xt+xIu2||P_Xu;rCwm_Y~!|dz$wnbFmjKTm!uHt8w_Dd_8s9dtjJq(rop8oN
d~~zVw_So[dnXVv+^ErP~&^_t8ritId_8s9dpVnRJq(rop8oNd~~zVurn>o[dnXVv+^ErPtzbru-r>tGm$uHt8w_Dd_8s9w_nRJq(rop8w_ns+whSo[dnX
Vv+^ErP~&^_t8ritId_8s9dpVnRJq(rop8oNd~~zVurn>o[dnXVv+^ErPtzbn,mEFmjKTm!uHol^8~r|_Fsweu*p:~xt+xIu2||P_Xu;rCwm_Y~!|dz$wn
n>mpol^8~r|_Fsweu*p:~xt+xIu2||P_Xu;rCwm_Y~!|dz$wnmb~iuHt8ritId_8s9dpVnRJq(rop8oNd~~zVurn>o[dnXVv+^ErPtzy*t8ritId_8s9dp
VnRJq(rop8oNd~~zVurn>o[dnXVv+^ErPtzcn,mEs*ol^8~r|_Fsweu*p:~xt+xIu2||P_Xu;rCwm_Y~!|dz$wnn>mpol^8~r|_Fsweu*p:~xt+xIu2||P
_Xu;rCwm_Y~!|dz$wncmV!n&uHol^8~r|_Fsweu*p:~xt+xIu2||P_Xu;rCwm_Y~!|dz$wnn>mpol^8~r|_Fsweu*p:~xt+xIu2||P_Xu;rCwm_Y~!|dz$
wncn,mEmV!n&uHqGBfCfDf^AFfGfHfIfJfKfLfMfNfOfPfQfRfSfTfUfVfWfXfYfZrCmpqGBfCfDf^AFfGfHfIfJfKfLfMfNfOfPfQfRfSfTfUfVfWfXfY
fZbv[OSPnl;s*t8ritId_8s9dpVnRJq(rop8oNd~~zVurn>o[dnXVv+^ErPtzy*t8ritId_8s9dpVnRJq(rop8oNd~~zVurn>o[dnXVv+^ErPtzbmV!n&p
anDrGmcp:Jw4n,mEs*!pAt8n+ygn(tf~tueE_Gtzn+<n+<$n+<tSuevXP<v8Dxa~DnXXnRmUn&qSt*nRR~_uD?o;n>mCtf?nX^,dpAnRnLnRp(dwDGpHqw
LqHmp!pAt8n+ygn(tf~tueE_Gtzn+<n+<$n+<tSuevXP<v8Dxa~DnXXnRmUn&qSt*nRR~_n$!,mCtfSmCtf?nX^,dpAnRnLnRp(dwDG)p!mMmIm.|Tm2^F
!q^_Go;cuD?o;qBmaq,o;cpAIo;rynUo;pdIo;bmV!n&uH!pAt8n+ygn(tf~tueE_Gtzn+<n+<$n+<tSuevXP<v8Dxa~DnXXnRmUn&qSt*nRR~_uD?o;n>
mCtf?nX^,dpAnRnLnRp(dwDGpHqwLqHmp!pAt8n+ygn(tf~tueE_Gtzn+<n+<$n+<tSuevXP<v8Dxa~DnXXnRmUn&qSt*nRR~_n$!,mCtfSmCtf?nX^,dp
AnRnLnRp(dwDG)p!mMmIm.|Tm2^F!q^_Go;cuD?o;qBmaq,o;cpAIo;rynUo;pdIo;bn,mEmV!n&uH!x:ep*?swn(m^v.m;?xX_GwnE?xX?euD?e^(q_ma
Polv8nuxIplNplXp:mUn&qSePp:RnUeuD?o;rCmCm^e?pl^,epAp:nLp:p(ewDGwpqwmTn>mp!x:ep*?swn(m^v.m;?xX_GwnE?xX?euD?e^(q_maPolv8
nuxIplNplXp:mUn&qSePp:RnUen$!,mCm^rCmCm^e?pl^,epAp:nLp:p(ewDG<p!mMmIm.|Tm2^F!dE_Go;duD?o;q(maq,o;dpAIo;urnUo;ds:o;mb~
i n,mEs*!x:ep*?swn(m^v.m;?xX_GwnE?xX?euD?e^(q_maPolv8nuxIplNplXp:mUn&qSePp:RnUeuD?o;rCmCm^e?pl^,epAp:nLp:p(ewDGwpqwmTn
>mp!x:ep*?swn(m^v.m;?xX_GwnE?xX?euD?e^(q_maPolv8nuxIplNplXp:mUn&qSePp:RnUen$!,mCm^rCmCm^e?pl^,epAp:nLp:p(ewDG<p!mMmIm.
|Tm2^F!dE_Go;duD?o;q(maq,o;dpAIo;urnUo;ds:o;dmV!n&uH!x:fp*?fGn(m^f~t?fE_GfZE?fE?fuD?f^(fvXPqGv8nufs]fNUfrFfmUn&qSfs:fR
nUfuD?o;fSmCm^f?Uf^,fpAIfnLIfp(fwDGolNqwmTrCmp!x:fp*?fGn(m^f~t?fE_GfZE?fE?fuD?f^(fvXPqGv8nufs]fNUfrFfmUn&qSfs:fRnUfn$!
,mCm^fSmCm^f?Uf^,fpAIfnLIfp(fwDGolp!mMmIm.|Tm2^F!xX_Go;euD?o;q_maq,o;epAIo;u;nUo;es:o;bn,mEs*pbn(MqHmppbn(sYtjsWns^ftE
ru-r>tGm$ sWns^fEmb~i sWns^f=n,mEsWs3&q0mrs3n~q0oZe^Peo|rCowm9eqJu2(tEv[OSPnl;sWns^fne_RWRmVn8pW-w8mJq$qowLq$qoCrHq$qo
OVmIq$qow!;q$qovnq$_Nq$nHmXqowLq$nHmX_Nrs omoAq$nHmXcx!~fKNUm$m0rim<Po*dw!o*eoUqowLx!w!E_Nq$nT~MqowLq$nT~M_Nq$t9BmXe~f
KNUm$rGew!o*dm<t9w!o*dw!mes.m<p8pZu9vto*fq$nHmXfs.BmXfCm<Po*fw!o*evxo*qowLq$t9vxo*_Ns.ByIsRqNn)q$nHyIo>nT~Mp8pZrsqowLq
$t9rs_Nq$nT~M|tmZmJrsnHmXusyIrs|tmZTersnHmXew!o*v_mQuprs,se>m<t9w!mers,r5hu9vto*dw!mes.rHrs,se>s.m<v_mQuprsy6vhersnWm<
Po*fr1Dfodo*fw!o*crsnHEmrEp7q$nT~M|tmZnmq$t9u9vtmers,r5hu9vto*hBmXocpZrsv?mex!m<cx!rsv?mes.m<p8pZu9vtmew!mers,r5evxmer
s,r5eu9vtmersy6vhfCm<Pmersy6vhocpZrsnWm<Pmex!m<cx!rsnWm<Pmes.m<ocpZrsy>mEx!m<gw!o*cx!rs nNm0mErmmJs.m<f(t9m<ey0s.m<p8p
ZrsnW&vtmew!o*fnNm0mE_*fnNm0DocpZrs nNm0mErmmJx!m<hvxo*fx!m<cx!rsv?mes.w!o*qoy9mJt4yXudBmXew!o*eu9vto*fSoamVqozHW t4yX
mcu9vto*_Nt4yXmcu9vtmeBmXqow!;t4yXmcu9vto*qoy9mJs>yXSv_mQngc|i s>yXSv_mQngrroMyXSv_mQupoZnHmXc|i s>yXSv_mQupoZnHmXrroM
yXSv_mQupBmXc|i s>yXSv_mQupBmXrroMyXSv_mQuprsy6vhqoCrHs>yXSv_mQngfv*qow!;s>yXSv_mQupv*qoOVmIs>yXSv_mQngqoy9mJs>yXSv_mQ
upw!o*grs,r5gNobrsqoy9nmp*mrEp7wBM pSmip1|icrs,se=|i rs,se=rsnHmXdmnvhn7^mmJx!rs,se>tdmQers,r5gBmXromVTm0qozHWcrs,sevZ
obrscrsy6vhqoodnWm!v)^pqoodqoCrHv*qoCm<cw2rs,se=rs,se=v*ohobrsn4obrscw2rsy6vhcrsy6vhqos+v)U;v*qos+v)^pqor1qoOV!crs,sev
Zobrscrsy6vhqow!;ntr4rsy6vhqow!x2mkcw2rs,se=rs,se=v*ohobrsn4obrscrs,se;n9UnLn8q$pFEmrxht9wlqonNm0_Nq$t9wlqowLq$t9wlqow
!;q$t9wlqovnq$t9wlqow!;~W_Nq$t9tgBmXfu9vto*qow!;q$t9tgu9vto*_NzloFevBPm0|tmZTfs+nEDeO$m2mcr1Ddm<crs omoAzlm<qowLzlm<qo
OVmIzlm<qovnzlm<_Nzl~fKNUm$m0pFmXdn9Uq]mcrsdrsqow!;zlrs_Nzlx!rsqow!;zlx!rsqovnzlx!rs x!rs _*grs_Nzlq$qowLzlq$qow!;zlq$
qovnzlq$_Nq$t9~WqowLq$t9~Wqow!;q$t9~Wrymiqovnq$t9~W_Nq$t9Cmqu.~WqowLq$t9Cmqu.~W_NtgoFqow!;tgssx!rsv?nT~MqovntgoFt9rs q
$nWt1_Ntgm<d~fKNUm$m0romVTm0qowLtg~WqoOVmItg~Wqovntg~W_NtgM~Meu9vto*e~fKNUm$rGdq$drsqood tgrs_Nx!tg~WqowLx!tg~Wqos+v)U
;x!tgzl&qood x!tgzl_*f(fx]qoCrHx!tg~Wqow!;x!tg~Wqovnx!tgzl_*e~W_Ns.oFqow!;M~M_Ns.m<qowLs.m<_Ns.~fKNUm$m0drHrs,r5qoodt9
rs_Ns.rs ~WromVTm0dtg~WqowLs.tg~Wqos+v)U;s.tgzl&qoCm<t9tg~Wqow!;s.tg~Wqovns.tgzl_*f(e~WqowLs.tgzlBmXqozHWt9tgzlu9vto*g
mhn2qoodt9tgzlu9vtme_*g(fu9vto*qow!;x!w!o*_Nx!rs,r5qow!;x!rs,r5_Nx!rs,se;rs v&!gu9vto*gBmXfq$nHmXfml$nHmXfx!w!q0mnW%mE
q$|tmZTgBmXeodes+v)Uq0s+oMrs (mhn2qozHW x!rsnWm!oMrs (mhn2_Nx!rsnWm!oMrs x]er1qoCrHx!rsev*qow!;x!rs v*t+r3>rsrCmkqovnx
!rs _*e_Zrs_Nrsd|idmht[v&!eu9vto*usmXdmnvhpFEmrEp7q$nT~Mes.wletg~WdomoApiyXspsRpiyXspomoAp^yXudt4yXspsRt4~fKNUm$rG^&nm
|ibn9UnLx8oc|qm0_3mrxhborSPx8oc|qm0_3mrxhmbn[oKx8oc|qm0_3mrxhbBtGmox8oc|qm0_3mrxhbRnKx8oc|qm0_3mrxhmbm!pSEo;p1p*mrxhmb
yO~u;L~*x8n7mkx8c^2M|qm0y*M|qm0n7o$^F!bFnpm$ L~*x8n7mkx8c^2M|qm0y*M|qm0n7o$^F!mbyO~u;Fnpm$ xAmib|Kw!;rHssL~*rCmkn>o$^F
!coF,o$^F!crHssxAn8L~*fSmkcmht[n9,r5,Cm:SmDvy|K|&;yXnW&?CTb|K~c;yXnW&?CTb|K|&pumim0|tmZTu<erIt+~*t+r3niTv+yEmJpnn)ru|t
mZTv+yEmJp>dxAmizWyEmJpnn)vxcv,m0|tmZmJz9mXv+yEmJp>dxAmizWyEmJpnn)BsQu<drIror3=_&m2u<drIror3>sLnaoCmgm$u<drIror3=^wu<d
rIror3=ZmCZpTu<drIror3=rnsPSu<drIro~*b^oVm;-|&;sLna-|&pumim0drudxAmicsLna-~cpumim0drudxAmitUsPmic%Mv_nC!x8eruev,m0b|K|
H|Qo)u<drIror3>xFninmTmLn1Su<drIror3>xFninmp*mrEp7|Qo)u<erIt+~*t+r3niTo[mLn1Su<erIt+~*t+r3niTb|K~cpumim0|tmZTu<erIt+~*
t+r3niTv+yEmJpnn)ru|tmZTv+yEmJp>dxAmizWyEmJpnn)vxcv,m0|tmZmJz9mXv+yEmJp>dxAn8z9mXzWyEmJpnn)BsQoCqmm2u<drIror3=q]m$c^wu
<drIror3=ZmCZpTu<drIror3=rnsPSu<drIro~*b^oVm;-~c;sLna-~cpumim0drudxAmicsLna-|&pumim0drudxAmitUsPmib|K|&;s+oMvQu<erIt+~
*t+r3ni|Ype-r1u<erIt+~*t+r3ni|Yn~povQy>u<frIqqn5Pu<drIror3=nSntu<drIror3>^_rurKo9;s+oMruu<frIfL~*ev,m0u<frIfxF=s+oM$m9
|tmZnms+Vmevxu<erIbsLna-|&pumim0crucv^AnGb|K|&pum(KmioCm!oM^!FRo~mBmfqqn5P ^!FRo~mBmfcnSnt ^!FRo~mBmfrKo9;^!FRo~mBmfbs
Lna-|&pumim,^!FRo~mBmfcoX^!FRo~mBmfcxAn8^!FRo~mBmfb|K|&;s+oM^!q]SnmHn5P ^!q]SnmnSnt ^!q]SnmWo9;^!q]r>bsLna-|&pumim,^!q
]SnmoX^!q]SnmxAn8^!q]r>b|K|&EmBo9;|Hq,$u<frIfL~*b|K~c;s+oM^!rfoTmiu<fxF=Hn5P ^!rfoTmiparuf^2ruf^_v,m0f^2v,m0cnSnt ^!rf
oTmiu<x8fL~*x8f^_ruf^2rurKo9;^!rfoTmiu<fL~*bsLna-~cpumim,^!rfoTmicoX^!rfoTmicxAn8^!rfoTmib|K~c;s+oM^!zFu<fxF=Hn5P ^!zF
paruf^2rufv,m0pav,m0g^2v,m0cnSnt ^!zFu<x8fL~*x8f^_ruf^2rurKo9;^!zFu<fL~*bsLna-~cpumim,^!zFcoX^!zFcxAn8^!zFb|K~c;s+nEu<
drIror3>xFniTriw*o*qqn5Pu<cnSntu<cpOnE,NsP>Smkro~*bsLna-~cpumim0crucxAmib|K~cpum(Kn8p!!m0Lb|K|&;%My>u<x8erIx8rCmprue|B
rub|K~c;%MuIm,o2TmimBmfu<x8grIx8gL~*x8g^_rug|Brug^2rub|K|&EmByEmJwLFRo~x8frub|K~cEmByEmJwLo2TmimBmfx8grub|K|&;yXuIrGx8
erub|K~c;yXy>mco2TmimBmfx8grubD^|n(p]tmu<ror3=FnzTn7oUpYm9S=mQmTXo*cv|nwT*EOnhdxAmiq^~9O$oAmMM=orwi!bo=cm|MyUyPmu|&E|t
mZ|YqFnm|K~cE|tmZnm|K|&;s+pL|K~c;s+pLz9yIr1bpS;m.mQtD nJmhnaohOS;mnW%mEqFTmifrHtKoFiqFTmibEn|Bm>S|tmZmJm<oNEpczPdoFbDm
Qn(nvEn|Bm>mcr=pcRmIoFdoF|5pczPdm<|5pczPoNEpcRmIm<bmnEz(r=pczPoC&?CnmW|>Km0DbEn|mcv*n7yO~uo*oCuvo*bxD;BppKx8p8|qm0bEn|
mcvbntp%Wse;ntp%penWuvo*rKsem9n8z9mXbEn|mB(KbEn|mTwUmcm<coFqhLpcmFmibEn|p4Zpo|&E|tmZ|YrudxAmibEn|p4Zpo~cE|tmZ|YrudxAmi
bEn|p4Zpo|&;s+nEDbEn|p4Zpo~c;s+nEDbEn|p4Zpo|&;oeLmimRmgtRmcPU|To*n4EpczPn7Um$o*bz1S;q]tRmcsEp8~MdoUb|;vypvS;r=pczPoC&?
CnmW|>Km0p1WmCGrGbAnCnHoUn8_*n7Um$n8(r6oUpasLnaSn7Um$pasLnavyq>Arp(m(m0q^Xm(m0bo_U$nWy?r=pczPdmnvhri&?CTn7^^m0v+|>Km0D
dntp%Fm>Nv+|>Km0Ddntp%v*y>dmnvhv+|>Km0DdOV!zW|>Km0Dep$WNdw)TnNm0zW|>Km0Dep$WNqBm:spmnvhv+|>Km0DpYm9S>mnvhn>Um$o*b~|mcP
mQo?men9oz$m2b~| tNsRz6cuusRxLbo_U$nWqmm2p1W|>KrGx8drubsfxjpumMm$n8rmmJF%cnpm$n8~|p1xJnHEmrEp7~|spn9UnLn8(mht[o_Uv6(mh
t[o_UrpmQmTXo*yUnEmcAp4(y!q]tRoCmXmQ,mMm$n8_*d(mht[o_U$bnG^kyUyPmXcpysfxjq0z9mXd~|udz9mXr6mV;~|vy|K|&;J|Qb|K~c;J|Qbr=m
$bm(nCbwRCmVnkmXmbnUnwDoAt5Pv_(>nJmhnavy|&punUnwDoAt5P_lnEb~cpunUnwDoAt5P_lnEmbnUnwDoAqFp3zJmBAm:TbnjS_)|&E|tmZTn<mQTn
LoCm!VmeBsQbnjS_)~c;mrm:TmibuumlDnvqFp3zJ t5P vttTbnpMBnWw*ptc_$qic_$qPc_$sjc_$sdc_$s(c_$uac_$x&byXbnSCpt-|&puPnltEnSC
pt-~cpuPnltEnSCpt mgmZnmWsev6n2Pv6z(r=m$cnjSm]npMBmcpbmVSmRu5bw6mbnkn&vgmRvgbw7Sq3F.nPp__l|FqPyU|FsjyU|FsdyU|Fs(yU|Fua
_VsLna_l|FqPyU|FsjyU|FsdyU|Fs(yU|FuayU|Fx&yU|F-8yU|F-9yU|Fqi0yU|Fqi1yU|F-pIyU|Fqi3yU|Fqi4yU|Fqi5yU|Fqi6pq^<0.u|^$Fm9qr
pbp=pPn[p_dq!o*,Cx$Gb^Zu^G[syKb^ZL:Bm;T[m0ZpPxRo[~SY:Bm;|YsyvYo[~SR:t|~(okxRo[uPokxRrhw+nWnpm$:xR[zI:oXoghn3~To[~ST:~T
rhuTG^+!sl:~Tn7TmQTnLmeC:~Ty*s*u^K[L:nPmooddn2Zo6pbp=pP^ero:Bm;mJn3^edvY:^eo[~SR:^eur:nPmoodok^ednGtVpbp=pP^ed~upP^edn
2Zo6pbp=pPxRdIu=;n3xRds^xRdnGtVpbp=pPxRri:xRn>:~TpqE1.Cx%GmTx*npn:yYAZnXBs5_:nE~sGmTGqZnRmYBmqrPniTnXZt5nET>oPZnkLJ<os
xbo<mIosxbnRDJm2VnRotKnsLJUm.JzaYSs[wYu8nR&nXnJzMJnRRmVmhn>nSVnsTVm|mYds5nXFRmVnXHm2nXtjmoueTmhdnLm|VnRzbYm2nXYm2nRp$m
Mw_YnX^_Ynhw_Yns^(uGpaYnhpFmCyvnhd^(nOBmCyvnh^tmVApqDzty_IsPm9qrPsunLU;Hv[qrmSm^etTolN?e?em(u2olXolNKolColmTrColZolNCo
lNtTolKolnuu2YolNmjeVolNTXolTXolFolmj_XolYolNQolPolXYolNPolDmTu2PmTem(u*MmTePmTswolRmjeolAolp:pls3Os3q0Eq0Wd+wh|CB|7M|
7J|7V|7S|7G|7Dn>m~y6 pM^nf$mifnSCptf*sF!ftJnGBmjnG|dW XWn>YtFBm,_$m9m2dtjsWs3&q0mrs3n~q0oZe^Peo|rCowm9eqJu2(>+wQnSx*qu
ohp$Jdy0x)ao840.n9sgmSPtwp5p[r%rjy&pH|Au]nL)q+Wrq)nqs4wTndq>vWnvndInbq>vWnvInbnb=q>vWnv=Em]q>vWnvEm]|X=q>vWnvA=AulyEn8
sfneo81.W*nLobmSA)tws<p[rj)Yq7nqLpHq7x__5u]morqzY)WsTr%)|Xnbs4Mwwnq=In4G)nbp_nqtTp5s4_[msnNcnNcmic_]m9ms*n4q+Up%|[Hbx;
Tm<pYm<NndzMndzMovbwNEq3ztq2mwnMpq4E0.^kIntn&,YtFBm,HHq+HzunbHzundHHp$)HHn|=Hzu=Hzum]oPxj~6;HHuNHHw]HHuM=HHvzoPxj~6;MW
^QuM>oPQWnRQuM>QWyKWnRBuM>KWnRKuM>KW>GWnRGuM>GW_8WnRFuM>PWnRPuMneoPMsQ;teotKUI,YtFBm,MvOr^^Qw1r^xawsr^nXMp.5 oKzasD5r^
zarR6r^OnsMo.8r^nss,79r^UxaxsmB^Qx5mBxavPmBnXMpI6mB_Ps,_OmB|jvGmBOnsMo.5mBnss,94mBUnRs,43mBE^Qp.1mBV^Qo.9mBV<s,39mBrxM
w,nT(p8xtnT*p8z7nTmwp8p99nTm9p8sD4nT&p8y^4nTU*p8_O9nTUm9p8xunH^QylnHxax?nHnXs,~mnHEzasD7nH|joG mlnss,|, mlp8_C ^Q^. xa
yR nXs,63 _Ps,nZ |j65 Onss,47 nss,37 EnRs,31 (p8ub5 (p8~k5 *p8^i8 m9p8|p,^QxK,xa_D,nXs,62ug|j^h,|jw.,OnsMrR9,nss,96,Ix
a~H L^Q|r mTp8n%7 LnXMr$4 m0zarR3 m0p8p94 nSnss,53 nSp8zs0 t|m0p8x[ m.p8z<^;xa_m^;nXMr$9 n2|j80 mYnss,81 mYp8n%wgmMp8|
2qDxa|3qDnXMsD1 nGzap95qD|jo. n9nsMp.9 n9p8|s J^Q~I JxaoG0 JnXs,57 p?|jub J|j60 sonsMp.3 Jnss,75 t|JnsMoG1yv^QoGwgs_M~
JyvnXs,sD n|zar$0yv|j41 s!nsMpI1yvnsMoG4 nPp8oG5|(xaoG6|(nXMrR8 trzarR5|(|j33 n_nsMr$8|(nss,97|(U<s,no|(*p8oG7oh(p8oG8
oh*p8oG9ohmwp8zs7ohm9p8^h9oh&p8^i6 H^Qo.1 rgs,86 HnXMo.0 mgzasD6 mgp8o.wgnUnss,40 nUp8r$3 mgE^QpI8 nUOnXMp93 H(p8ub0 H
*p8r$7 Hmwp8p9wgHm9p8~k3 H&p8o.6 HU*p8sD0ohsX^Qo.3ohsXxar$2ohsXnXs,y^ohGoz|j|OohsX|jqMohsXOnsMpI0ohsXnss,59ohGp4xapI7o
hsXUxar$6 xxohsX|jp. xxohsXOnss,83 xxohsXnss,55vvnRs,zsvv<s,68vvnXs,90 oz|j66vv^pnRs,67vvU*p8_O4ohGm9p8p97ohG&p8^i7ohx
j*p8p.8yu^QsD9yuxa|uyunXMr$1 rnzap91yu|jn% nJnsMp.6 nJp8vG5nTB^Qp.2nTBxapI2nTBnXMo.7nTp*|j88nTp*zarR2nTB|j72nTmlnss,74
nTmlp8_O7nTBw&s,61 xxnTB|jp9 xxnTmlnss,4wgxxnTmlp8ub2r^P^QsD2r^PxarR4r^PnXMo.4r^rn|jr$r^P|jpIr^nJnss,58r^nJp8pI4vvB^Qp
96vvB<s,48vvBnXMsD3vvp*|jrRvvBzarR1vvmlnsMrR0vvmlp8^i1 RxapI3ohm.p8pI9ohDxapI5ohDnXs,91ohn2|j~kohDzap.7ohmYnsMp.4ohmYp
8y^2ohJ<s,92ohJnXs,49ohp?|jp,ohsonss,8wgVnRs,85 V<s,51 VnXs,73 nEzar$5 rxs,44 q8nsMrR7 Vnss,64ohY(p8p98ohY*p8^i0ohYmwp
8sD8ohYm9p8p.0ohY_]tjq[^f=Cx%yD^zudz1udqOudqKudTp7qKud^VqKudyBnp&oi+2~ongv8^Y!u,dnu!nRmTn(p8IsFpF_e(y_IIYmgt*yKmgur<_8
<nRnsDrgYxbx|oNmwdotFrP<nXy+sFdnLnRrgQAsOs9wps_T~DrgV<pkygB>Z!q(nJdmoA[!u,dnu!nRmTn(p8IsFpF_e(y_IIYmgt*yKmgur<_8<nRnsD
rgYxbx|oNmwdotFrP<nXy+sFdnLnRrgQAsOs9wps_T~DrgV<pkygB>Z!q(nJdmouL!u, _$m9m2bqd _$m9m2bGnk(_sby3AmR&^n_6o_|FbGnk(oO;u9^
n_6o_|FbNs5?bNnz!os_s~RwNE~Ro<mI_%q)c_!pq3zs.(wq,Ip$Qohu(^f>Tr4u%dy2dmnp;viFp;do|p;uYtldofp;uZn+_:o+yopiyop^yot4yos>yo
zeqOuYp7yow>qOuZ;yoo+wbpiwbp^wbt4wbs>wbzeqKuYp7wbw>qKuZ;qKo[p7wbmrmXnvwbsqz2wbmnz2qKviFz2wbo|z2qKuYmXnvwbqJnvqKuZn+nvw
bmTKpVmTpk*s8pkoyn4u(K%mDq(%mD*t*mQnPXme&q0mrs3n~q0oZe^Peo|rCowm9eqJu2(=PmTrfnULDm2qhmjtD o+vQepedp^vQp1~yE;qxn4u(xA;&
q0mrs3Tp7qKcxA;mTpkoypq4C.OqemU*,Ip$Qohu(^f>Tr4u%dy2dmnp;viFp;do|p;uYtldofp;uZn+_:o+yopiyop^yot4yos>yozeqOuYp7yow>qOuZ
;yoo+wbpiwbp^wbt4wbs>wbzeqKuYp7wbw>qKuZ;qKo[p7wbmrmXnvwbsqz2wbmnz2qKviFz2wbo|z2qKuYmXnvwbqJnvqKuZn+nvqKoc%mjT~:xA;yDmr
s3n~q0oZe^Peo|rCowm9eqJu2(q0z1et4qOezeqOepiqKwmp7qKqhmjtD o+peeo|$pqCq6zXp]m^uDm^n:mIr2_3oxp?nkp6!~&x|qkAw~m(ox?oxn|ox
otFs8Mcm&nk_j&n7xhms(qhEHn7ngxHsO^sH~]p%nGoxuDoxzNox$!p6ngqkAoxGm((o5rGmcp*HoNOwCtrpVQsO~&o<mIp*pVp?nkw_mgpVtjm(pVoPn|
pVotFdv8dm&nkoNO&n>xhnc_ZtrHn>ngzVsOw_wUr4nGpVuDpVzNpVoPDngw_Gm(w~+yw?Im0mEp?nkd+wQm(pVoPn|pVoPv8w_pv&n>xhnc(w_SngzVsO
w_wUr4tjzNpVoPDngw_Gm((w_nDrGmcpv&eoPQsO~&r>mQTnLmep*pVp?nkw_mgpVtjm(pV?pVn|pVotFw_m&nkoNO&n>xhnc_ZtrHn>ngzVsOw_wUr4nG
pVuDpVzNpVoPDngtzApVGm(_ZnDrGmcp*u*oPtroxoPnSntmer2pFEpVp?nktI!dmgpVx|tzA_Zm(pV?pVn|pVoPv8dm&nkoNO&n>xhnc_ZtrHn>ngzVsO
dmQHn>mgr4nGpVuDpVzNpV$!tIngtzApVGm(w~+ztru-r>tGm$nHEpVp?nktI!w_x|tzA_Zm(pV?pVn|pVoPv8dm&nkoNO&n>xhnc_ZtrHn>ngzVsOdmQH
n>mgr4nGpVuDpVzNpV$!tIngtzApVGm(w~+p,.wJ xpwE?mrEm;dwED!ao80E.m^HJ&qrmMm,txTmB(Dn7rm$mB(^]qYTmB(Dn4mD$mB(^]x1D~6_]pEp7
D~6&rKp0D~6_]o+p|^OnlmFp1pip|^OnlmFp1p^p|^OnlmFp1t4p|^OnlmFp1s>p|^OnlmFp1zep|^OnlmFSsIp7p|^OnlmFp1w>p|^OnlmFSr+;p|^Onl
mFp1o+oJnHn(mlOp1pioJnHn(mlOp1p^oJnHn(mlOp1t4oJnHn(mlOp1s>oJnHn(mlOp1zeoJnHn(mlOSsIp7oJnHn(mlOp1w>oJnHn(mlOSr+;oJnHn(m
lOp1o+oJy>p1pioJy>p1p^oJy>p1t4oJy>p1s>oJy>p1zeoJuIrGsIp7oJy>p1w>oJuIrGr+;oJy>p1oan5cmDnLser6n(mlm]nLr|S*$nkn5n7Pwln7n5
Mm2mspcn5NrKxmz!nrm2r6Am$pqwQDmU(obmMm,vSz]vVnZ-nZvVnZ-novVnZ-n%vVnZ-oGvVnZ-o.vVnZ-p9vVnZ-p.vVno-nZvVno-novVno-n%vVno-
oGvVno-o.vVno-p9vVno-p.vVn%-nZvVn%-novVn%-n%vVn%-oGvVn%-o.vVn%-p9vVn%-p.vVoG-nZvVoG-novVoG-n%vVoG-oGvVoG-o.vVoG-p9vVoG
-p.vVo.-nZvVo.-novVo.-n%vVo.-oGvVo.-o.vVo.-p9vVo.-p.vVp9-nZvVp9-novVp9-n%vVp9-oGvVp9-o.vVp9-p9vVp9-p.vVp.-nZvVp.-novVp
.-n%vVp.-oGvVp.-o.vVp.-p9vVp.-p.cqbz]vUnZ-nZvUnZ-novUnZ-n%vUnZ-oGvUnZ-o.vUnZ-p9vUnZ-p.vUno-nZvUno-novUno-n%vUno-oGvUno
-o.vUno-p9vUno-p.vUn%-nZvUn%-novUn%-n%vUn%-oGvUn%-o.vUn%-p9vUn%-p.vUoG-nZvUoG-novUoG-n%vUoG-oGvUoG-o.vUoG-p9vUoG-p.vUo
.-nZvUo.-novUo.-n%vUo.-oGvUo.-o.vUo.-p9vUo.-p.vUp9-nZvUp9-novUp9-n%vUp9-oGvUp9-o.vUp9-p9vUp9-p.vUp.-nZvUp.-novUp.-n%vU
p.-oGvUp.-o.vUp.-p9vUp.-p.pqC.Pz5n8tcmEz]msC;oJ,q,n2p1pioJ,q,n2p1p^oJ,q,n2p1t4oJ,q,n2p1s>oJ,q,n2p1zeoJ,q,n2SsIp7oJ,q,n
2p1w>oJ,q,n2Sr+;oJ,q,n2p1Tp7oJ,q,n2p1JAm$ oJ,q,n2p1KxlmJoJ,q,n2p1yOp7oJ,q,n2p1Kn8oJ,q,n2p1tjnl;p|v9Tp1pip|v9Tp1p^p|v9T
p1t4p|v9Tp1s>p|v9Tp1zep|v9tTsIp7p|v9Tp1w>p|v9tTr+;p|v9Tp1Tp7p|v9Tp1JAm$ p|v9Tp1KxlmJp|v9Tp1yOp7p|v9Tp1Kn8p|v9Tp1x1Jnrm
2~&nl;p|v>p1pip|v>p1p^p|v>p1t4p|v>p1s>p|v>p1zep|v>SsIp7p|v>p1w>p|v>Sr+;p|v>p1Tp7p|v>p1JAm$ p|v>p1KxlmJp|v>p1yOp7p|v>p1
Kn8p|v>p1raJnrm2~&nl;oJnWLnKp1pioJnWLnKp1p^oJnWLnKp1t4oJnWLnKp1s>oJnWLnKp1zeoJnWLnKSsIp7oJnWLnKp1w>oJnWLnKSr+;oJnWLnKp
1Tp7oJnWLnKp1JAm$ oJnWLnKp1KxlmJoJnWLnKp1yOp7oJnWLnKp1Kn8oJnWLnKp1|aJnrm2cn_qZpYy.PqipYy.PqPpYy.PsjpYy.PsdpYy.Ps(pYy.P
uapYy.Px&pYy.P-8pYy.P-9pYy.Pqi0pYy.Pqi1pYy.P-pIpYy.Pqi3pYy.Pqi4pYy.Pqi5pYy.Pqi6pYy.Pqi7pYy.Pqi8pYy.Pqi9pYy.PqP0pYy.PqP
1pqA.sWobw6oCu5bo+^[butnWu5bp^^[boZnWu5bs>^[mbzLnWu5nxVm9nWu5bw>^[bxU;^[aDmiskmJr1|:~i sWObr=p4mMoMr1|:~i sWOay0rTOx>|
gb*n:^4tLmYp_%nM:o>mTImEz]S|gaw7Zmeu|^Yol^8~r|_Fsweu*p:~xt+xIu2||P_Xu;rCwm_Y~!|dz$wnanjn9m:pu_|nHpzEnOu|uHrVay0mV!p]u|
^YCfRmRDbWZpsntYrko;o3oqmeu|^Yol^8~r|_Fsweu*p:~xt+xIu2||P_Xu;rCwm_Y~!|dz$wnbHVz.VmbDmbvyPPVbWC^rp4mMoMy0u|^YqGBfCfDf^A
FfGfHfIfJfKfLfMfNfOfPfQfRfSfTfUfVfWfXfYfZa~fMCr,MDr,MRqQy0CCmR:o>mTImEz]S|gbHn5pCFmCUmQ^rp4mMnErLmeu|^YqGBfCfDf^AFfGfH
fIfJfKfLfMfNfOfPfQfRfSfTfUfVfWfXfYfZpst1mer=p4mMnErLmeu|^YP^rp4mMnErLmen&pdqHqlBrKCo3_pDJo3oqmeCLmROqZbFmQtEsebr=Wbq2b
nrmbOvym<:_%q)bVvyp^Dnxu9|:pfm9bpiKboZr^bw>Kbs>o&mJ&EnxVp7o&mJ&tEu%-pio&mJutmbIq&nvPbo+^VmrmXnvPbu|^$DbHCbHDRbt5-mQvyn
So?m0o?mbHVbUHDbq8Dam^SKmBmDKo;pq|,.mQyy&mI(wqr<o;yYol^8~r|_Fsweu*p:~xt+xIu2||P_Xu;rCwm_Y~!|dz$wno3_pt5~6x0nUoto3oqmeo
txdx0Knrm]SAq3D.CJK ~8xrtCuavwBxWs(B57xWs(3CCbotxdx0n2mRJK ~8xrtCsdE8CxWs(91<tC-89E3xWs(929xWsdEA4xWua620xWx&pI1xWua59
9xWs(vwDxWs(F8CxWs(_ODxWua5B0xWs(21DxWx&D42xWx&51FxW-8x)9xWs(8F0xWs(439xWuaFvGxWua295xWua^65xWsdEnZxWsdEsDxW-9o.<tCs(n
26xWsdE2DxWs(3F3xWua3rRxW-8D70xWuay73xWx&981xWx&A7<tCs(4r$xWuaE80xWua7sDxWua7r$xWx&533xWs(272xWs(5B6xW-9vGDpqwQnjn9m:p
u_|nHpzEnOCJK ~8xrtCua72CftCsdEsDftCsdE8CftCs(B89ftCx&0B9ftCuay73ftCx&6D7ftCs(2n.ftCua557pq^=y0szp=o6ngV*|k=nlrfPTpqE.
mqmwn2Do;y6|(nXLnXmoOnXXnRmoUnNXnRx)Ipq9A.CYCoonen_sXYpsy?pJmQtFaxlTmHuXSo3mwyE;o>nTwA?~1o3mwyEneCmVYqjma;^>DnhKo3mwzh
o>nHUoTDmioimj(BmLu$m|DG;^>xlqzpOmFmBAnEaq8LC*OayBKYmBo)a|;rpGnSB;EU^IposOm|C)n(m2n&nzmsmhA-AnhTzPIAaGnSp*:Mm2Im.*oir=
W_l&s&pOXn8pfqjyIo_&s&FnCy!vQ_l&s&pOXn8yyBmlpmo_&s&u+_l&o;rA*n8yyBmlpmo_&s&mTy!vQ_l&o;rA*n8pfqjyIo_&s&pfqjyIo_uOr=W_ls
~s2FnCy!vQ_ls~s2mTy!vQ_ls~s2u+_ls~s2Smw:s2GoUmix9movfTmix9$m2MwDmFzUD^ImOrAo2pumwrKmGpaCnStu_3H(mECnStueummj(psnStu:mj
(n7NmLcqATNmicnjyCmYan_GrA(mEBoUn8s2nUmJmYGa?COu$m!RmVOpsmgr>Npco3Eo*LmiaEm[pEp7TmQnen2Cseu!pmTmQnewBMqDmQneCnlTnhanUm
JrnPpMarO~|anLm2r|nHnSo?mUamqSnet5Bm:Cnho3mwFoUtvBnSo?mUaEq|p|m^os=m|CneHm2Bat4|~nWnSm[~%mam,|~_U!wW |~a|~|(LpcmFn8(mB
(Das]momqmUaTmUAn9aAnKm2G(neGp=niam&ooapOmFm&ooaTnNm2(nem0MuOB**Au:(EmaPs|x1maPs|pEp7maPs|rn%arnAnLanLm2m|nio3^oWBm2r|
at2Bm!Gm2o3v);p|PosZAam&^>&nH&nenJnwTRnv~(am|C;Cpzm2bBmfpsOnrmem|Cnes+Rnvn3m|CneSnGn(n8BmLLo3PpTmgTmMaq>ng_URm9nL|(m|n
iamqnzuG,uM^BnJ?n9aDnNOa|=m9o3zzI_Um|o*zZm|MPanPmonWAoKx>WnCL n2_Ro3oJmJn&;pfn(amoo9men&nen&;pfn(amYuBHNpcpsOnrnBanLy|
oLT;ogpsnVyenSLnpnJPpsnhTn1aH&EnvnJqzy)TCsPneBmXob^wanJmJp|n_|=psOnrmiamnKokKNu,nenGnlm<mHrmmJpWm0o3sP;xcm,n3Cm<rA(;Gm
TzyCOm$s%vvmTzythP_nD|>Kap*m2nTuBpsppKn8p*m2nTuBoiBqwnvxcs|mnKokKNu,qpPmTnGaxcm0:nJPPn8CmDKanJP_&am|~q&rAp=PmePwXmXu$n
C$nuYnWsPneJAm$-_)xEu4anLyETm^mcTmQneFvWoAnLyETm^oinPmQWmDKoinPmQWmDKv_ny_?u$mfOuOp!z2nJPpMps&Fn+mMnHmfaT*qwA?qDmQnevx
mey9GoiP(;n2CmDptaJma*ni;mYp_oitcPn<mQn(m2rA(mEnLIm&zTpyVnBWn8Cm2nk&Yo3|0qZ,oOq]LaorwiptnWmaav9T:xJ py~)m%qzmlUyOmJp|F
xLoiyBmV%nv_h!amQxkDoAm|~quOs]mhCmIoKYmln1:JAm$So3rOm.OnTn&mqpA&nem0Vm;,npDm2pso~mqLr^pvBoip*n(menzCsQn8s]mhCmIpvnGvyw
fn8s]mhCmIpvnGoinPLM|(mjm&oingMm:mhpymMm$n+oitcOnhm; oSSneFm2yEmB|iamqL_?nWOnzmFanPmon8nJm,n3nPmo~%n&mqpA&neo_qL;Cn(m2
Aps(Em^ao=pA&ne%mMy!q,mOnGa_Hm(qzoepmTmXamMm$n+psmTPtymln1apMmvn8%ToiqLn2obp4m&am.w)mJo2o3nSmJm^nL(neBoTnpn1oiGn(;m.ne
BmLLmi_UtNPz5n8Cn1ois]mhCmIpvnG~%|qm,s]mhCmIpvnGSo3AXntH&nexjmV%as]mhCmIoKYmln1aTy.Pn+aqLOppas]mhs),CmDneRmwNmizZnCTx>
u8az1NImcmjCyOmJn3Bmfo3Ko%nV,Ko%mlOqzBnzKn+BmfoknUntpsmgm_m2mey9Go3NmLmln1tvRmwNm2o3m!Fm2o3PmDTmc_h!athpAyeoSS;mjCmian
(m2n&pCn_w$BmfatG~wnvn_w$Bmfo3WsFMm2rAw>npFmFaGqZFtvmjCn8o_njCYCm0mR%psm|m$^BskmJn3Bmfaq8Lm0YBmfanPm;mEnUm$xD,mMm$okBm
fan&;nUm$xD,mMm$okPUm$a?Bm,z1NImcPngDm,n3Bmfo3NmLnWmaPmeo_mw?(psn(Pmiap*AnL:pJmQtFu$UoTDn8u9r>tGtDanUnh;x(oTDmioiCmVYq
jmaneDm2m;n&mJnUnh;x(oTDmipsmTSmhCmIx(oTDmian2ydTbm:LnV|]ptmIPnyo3?m.n5anUnh;x(oTDmibumGn1m9aoJnPC;x(oTDmiaJma*ni;nJy!
oJnPCneEUmqrnpCnJy!oJnPCnenUSPmV!u$*KaApcmUAnOTm;_?scnL(nenUTm;anSoMnUTm;ps&VqCx=punjneS|0qZan2p!TMmX,njnepSnjyeosAotY
nnxEu4aJma*ni;CnzTs|EUmqrn*nWnzTm0u6Pm9N*qzraPm9N*qzWo9mirUy9Gbray9Gamq_,nGzUmq_,nGamTBm;u$ngxkTpymjCyOmJnVzZpcTo1Om$u
$mLoko,n(PoSAankOy+_l|GFmVZq,n[m$ p;Ppo1qPo[xVpo3o[xVpo4o[xVpo5o[xVpo6amjqzo_nhneOXapOmFnHU|T!OpsmLaTmCtvm0ntn1amj~qmV
psoOaD~6&psmqCOm.m0rAm(m0o3yCoTo3NsPneoSSnev%ax*oOo3mgyxav[oKyemqOSmFanLIm$m9amYGu:mCaml%ay8pA*qzy|p<nho3PnC!,_|u$uBa*
qzH&xDp*nemTDYnHEn+s|nPmoathP_nnPmou$oUnPmoaTm!Ts|m(TnLn8nLIm$u$qwnvnLIm$_UqSn^pSn8BqwnvnLIm$u$nCDu:vYU(azM!AanJ|=s|Dt
to*%YnWA_9u$nln[*nWA_9amYLpA(zTnh;s2CmL s2TmCoAs2mj~qqUs2x)mJs2D~6pys2SnJpcmimBm(s|oSS;s2v[oKnvs2mYqrs2PmC s2Fmqqrs2t2
SmF s2WqZF s2p*q|s2PnVnns2PmCohOSneq,Wyu|>ToinLIPMmwKaxDniaxDne|;apvSneo_U$asfxjne|arHq4z]Hn3q$bssq4z]Hn3q$y%q4z]Hn3q$
xGq4z]Hn3q$aw8nOpWqQWo9n8pWqQnr pWqQrsmcm<r,oFnMpsmTPPn8pWSqQw2pWSnMpsm>NrAmU*mcm(qzEn|GmTo?ni^rm$mMnen^monCqzp?*oiDwX
oiKsF&Ou$yzovrAmU*mcCnS$niu:m!SnepWBpTanJUnLazOS,nUnevWm0n:,nUnesE-mgy8|:nUneWmU*S,nV!bmlw$oin_w$P|>ToiBnhmJ(,oTnUUn+n
Gu$nhTmc(,oTnUUn+nGamlyeGnCLazOrAmU*_Un(oTyeMpCnVmBmUpCnULDn8pWoiutnTp7nULDn8pWvyWmUp7nULDn8pWoinJv);oJnPCm2rAmU*:BmwN
nv|;oiBm|n2:nEoTa~Ns~BoomEm(nCazO:xjnnPo%m^m]Tm!B*aqZDm2nT*bWmU*u$qwYps&r>tGtDmBmDKtvP|>CnioiJma*ni;OpEbx*BppaGnUSqzBq
wnvnNm;a|SmjmFwXn[mI!Im9a!Im9nT&SmFasFPo3KtBa(mvpt n2SK ~NuOxjn1SzOaD_atv~|zxm$ayCoT nJnpmoapS;m^o?pTnem(n*pcaogBoAnJm
0o3v4minePoTLaKm:mcqxanSoMmPawlaGnkn<&neKm:oimlUm_n+psOm<m0:v9qzuMn.miap*oOn8v9qzBmqKp7v9qzpiv9tTo3PnyLn8v9qzGm>n8v9qz
v9T:o,BxT;v9qzpEp7v9qzYm;tMv9qzPm!Pm,v9qzv9T:m|~quOmQq8LVn8v9Toiv9mJn2CmDptav>zZmaqpnnop(mhn2aEo1n[C siBnwBanNm2s&BmUB
o3m0yxmio;psqZnpmh&o;o3P|gmi,uMoOs&D^ImOaySs&s:m,p|nJOap>meBn&yxoim.v]Yo;o3rnEnLnHmfOuOpwuBHmJBmfO&u6FoUtv^Vo&tTs&v[xD
nHpTpsm!Rx=nvwRnLnNnerJmYp_%qQpfm.mJCn1u$*KpvnG:Ym9nMcmYp_%nMq^UmqnMcnJomqQv[xDmHmBmioi^OT:sBTR_bn3Ym9nMo3EoOapM^nmICm
tUmFu$rdFCnzneMovm.qjawjPPnvm.SKantn:mIm.qjaDVDanPm,n_LDtvw2nPm,n_LDtvq,oz:~TbpSn8m<psAwWD%anG%-oJFnWAwWD%ps%mEq$a^OT:
sBTRsQcr&TRsQaog ^OTps~|mln1u:zzP(amqmwmEPzzP(u:mam2C~|o3^omZmJtG_?ao(vptG_?amlnrqx ?Boim0DGtvpvnGmlnrbumn2CmDAmMoMCo>
psy?mlnraw2mlnrapEp7mlnru$xT;mlnramDnN;mlnramlnroiNn(;BngGneqjmqp_am&o_anG|eo+mQrfIm[u:pTtvFAXscnL(neSoOm;s[;yHm9yCu:n
Kv) ngDmQu.nStuSrnsPm2psmgm2n8m&GmaH&ne_*^wqDmjye(^wqDmjyeq,m$pTnepom^oTs&(CmUn8m9Vm;ntnem9Vm;ntqpr&rtoWpsy?m^oT^w:xLm
ey9Gd~fy9Gaw2m^oT^w:~fy9GdxLmey9GanJr>^wanJr>mIxv^rWSy~tvo_^7m,pAr~umpGrt^>m%qzqLBmjna_ln2zT^7m,pAo+oJFapv_l^7m,pA&nia
yHm9Nv0ogoiCn(m2uLumy9moaqLn2OnWn(m2AanGm0qLmhuOmjm.OaqLn2y|nz_,nGanPLM r_p?Cnju:mD?Bm0,mFEOu:mjYm2nHEngoimrm:nOpGm?oi
C^4pGn3q1v*uIm,m?Shsvy>mEo+~Lbr&n3sBv*uIm,m?oi*n:^4r&n3sBv*uIm,m?oioUnHp+NniSs&sEnHp+NniSo;o3rnsPm2:C_am;mTnazgSrnsPm2
bum&puOommBo9=n~puOommBAnEoiBoOmFyeEo1n[C oauBav(q4m^GNu,Yn8GmTzywZq4m^GNu,Yn8GmTzyq5:(Kyum9psy?q5:oKyeoKyeq5aw2q5u$m;
LbsvnW_am;mTnazgmlnrqxappKs&mjm.OnHpcsfaz]:q1rtoWasQ:q1rtoWas~_%q):n=n?rtoWo3Os~pGrtoWap<:sBrtoW|]obo+omoAof^zs&oKYCma
_Ja(Ppco;y6 u|uHmPSrCmpmPSoNpJm2StXspt.s$mPoinPmQaEo1n[C njnLrARm9nLat2MtvN~zn3n,qznU|0u:m:n9L~%n&mqqjntnenGm0qjntneCr
|r>mIBmfazeo&uGuX_dnDaJma*niEo;y6nHEG(Ntvn[DyInkBm0MzSy<BpcsfrAo2pu_pBpcsfa^2x1r1bBxT;r1bmDnN;v>bBxT;v>o3mpmDnN;v>bBxT
;v>am<-q4x1pxaoF-q4x1pxam<-o&Tmipax1pxaoF-o&Tmipax1pxatNp+t0o7o*rUr1auup+t0o7o*rUr1ay0Cmqu.vKm&neCmqu.vKm&qppe-wL_EvKm
&ne_tnLmerk,nkn&n*m0:p^nDvyp+,nkn&n*m0:p^nDSo3o4y6oymcnLmamFu6u|nW~7rJu|nW~7Cm;n:nW~7mUs&mYoMp|rnnlneotqwAzTSm_neS^|pT
qVUneMm9mDApPxU;Bucq]oiBmLL p|zuGnBIApsq5 pS;o+y|q5cpiy|q5cp^y|q5ct4y|q5rroMy|q5czey|q5sIp7y|q5cw>y|q5r+;y|q5pYp7y|q5q
^m0Vp7y|q5c_foMy|q5cw|y2cut-y2cn~poy2coZ-y2rrnE-y2co|-y2sIm9-y2cofn^y2r+poy2pYm9-y2q^m0Vm9-y2c_fnE-y2ap+,rnsPm2rKmG &p
uOommBo9>n~puOommBAnEoiBtBxvbsv,OommBAnEoiwln8Bm;LamlnrpsnVs|MyHm;PnBC;Cq5zS,KtBokvxB&ni|]obs:mjCyenUs|MpC(nHnh(niS,Uq
Um0VmVoOmio3m0UrpmDv_yeDny,r8mTo?nio3Psem2buMBasoYzxm$~%pCD_amiz+Hn3nG|eo+mQrfIm[anG|eo+mQrfIm[:PpTnen?Hn3nG|eo+mQrfIm
[u6n9UnLx;nG|e&neran9UnLx;nG|e&nenG|eo+py_HoJ_ln2Mpsv8wUp__l^7m,pA&nez] p|m9Vm;ntneS?MPmem9Vm;ntnem9Vm;ntqpqATNmi_UsSn
8m9Vm;ntnePp7o>,?MPmem9Vm;ntneppyby~m2C~|oiraPzzP(atNn=Px=oTr6mfo&mJPp%n_mw?s$Pm9pdA(TBtGmooCmjYuOrkmBRmVn8pWau^nr pWq
Q~fpW:yXSv_mTn|Dasy~fpW:yXSv_mTn|Dbrsmcm<nMcoFr,Vn&njnvpWqf_dxioA|Sm9n2Da~fpW:p!mJp*mrxht9n3tgyXoi|assq4n=Hn3q$amhn2Wo
)SrUn=q4qNn)n?q4q$bran=q4qNn)n?q4q$zUn=q4z]Hn3q$xGq4z]Hn3q$amhn2Wo)SrUrHq4qNn)ssq4q$brarHq4qNn)ssq4q$zUrHq4z]Hn3q$bssq
4z]Hn3q$bv9qzn2SKp<nWmtUmFaoKYml%mEn3o_nhnep^r=mrmDybCmtUmFoiPRxmanJm$^Bs)CUmTnjzUHn1,_| wjPPnvm.SKu6Hn1,_| wjPPnvm.SK
o3oJT,_| wjPPnvm.SKaTma;tcn[DGneWIx1oKYmln1ao+Bpcsf_lnhneutnHpcsf_lnhnep^Bpcsf_lnhneTpzBmfavTpM^nmICmtUmFarBmEm.SKo3pf
m9u:Rxm n&uOFAX n&uOntn:mIm.qj n&uOmYCn5mX:nGq&dn3Pn&rOmQpdn&rOmQ_Umjm&:Pn&rOmQcmMm0p1pCXzUn_LDtvn_LDtvw2n_LDm2ps%mEx!
~?Dm2vynPm,^wanPm,Cqw(n+ankPz2_t=PpT=PngapvnGbq,oz_1ngankPz2mYCn5mXbq,oz_1pTniamYCn5mXu:pTnePpTnirAnznGBnzKn+o3PnCmI_t
;PngmRAwWDq|Pngan2SKp<mB(o7~%ovMosnem^rFMosneo>mTPps^4n?n3rk,nkn&n*m,m?oiC_am;mTna Xa(pfnz;Fo~,osEs&n2pfnz;Fo~,osEo;ps
mtwXmhuOvToKyemqLm0D-m<|5WSy~tvq,oz:y0nGq&o3n9m$ ^OqznusXoAKNu,ne~|So3rnsPn8z((,oTnUUn+nGap^mjYmcsxojcm%nmp+ark,rnEnLn
HnKBs|p+,rnEnLnHnKBs|ut,rnEnLnHnKBm0oin~purnEnLnHnKBm0oin=pwuBHmJBnKBs|n?pwuBHmJBnKBs|n=nNm2nHnKBs|n?nNm2nHnKBs|o_OmEB
nKBs|qATNn8o_OmEBnKBm0bo_|=u$mfOmJ^w:Bmfw$mbCx$Xb^wx>Cx$Xbn,|:Cx$Xb^w:n,|:Cx$Xasiq]m$oyu$mfOmJ^w:n,mEq]m$rAmDLmEMmazTm
wmJFUy+an9KYobTmLm2o3?rO;p|npBm2p;amhLnUUn+T;p|Jma*zTp$IaG|>Nn8pS=sv,yBn8xDnia~OnG%mcp|soYo3yBn8~Ov*nTrm$fnV,yBn8xDnig
CqZ|:uMoOgTmZTsS-Cy?xDnidpDnsxvoiW(Kn8s2SyBn8pSEx>yBn8xDniapSpuo9Om!n8~tn&tSpmn_|=amQLnBVmes2SyBn8~Ov9n^momamexDnin>r8
mTo?nio3MnCKn8s2r=pcRmIs2wRPwXmh&rGmcs2mwn(nhmes2~OCqZ|:uMoOu:m9mhoMs2u9Fnhmes2u9n_ommes2Km:Sn8s2pS;$m>n8nnKm:oiKm:Sn8
pSEx>yBn8xDniriy?xDniapSEmHn<Um$-rmmJsfxjq0nVmB(Kn8En|fTmZTsS-Cy?xDniam.Smay:s2WmDm|mes2nNRnvs2nJUp3s2Cr|n8s2pMqym[n8s
2~OnSnr p|n[n5pAam.Smay:x(mJmQLnBVmes2Fm>Nn8~Ov*nTrm$anNUwkmes2tr%Fnw s2uM%nvs2Sm0yxnvs2mMx1s2Gm|smn8s2nStusSnWr|n8s2~
Ov*nTrm$aHzzmes2~Ov*nTrm$okCqZ|:uMoOmbpfn(n8s$tr%anzsfwkmes2FxTmomes2Sm0yxn8s2m.v]nvs2pSEmHrmmJo_U$bumo:CmIm^SKaG|>Nn8
x)mJpSEx>yBn8xDnips^>~OnG%mcp|soYo3yBn8x)mJ~Ov*nTrm$ev9n^momamexDnips^>pSEmHmBr|,^^s|Km:Sn8x)mJ~OCy?xDnianJUp3x)mJs2Cr
|n8x)mJs2uM%YnW^>s2SqATLnvFm>Nn8pSEmbyBn8s2^Kn2-sss2~Omqp_n8xDnin4obGvfmEGnirOmQcnrvvnirOmQapM^nnHmLn8n2EoaYo3Epopv-ow
oTnT&oKyev9-pv-owoTnT&oKYo3rnsP-pv-owoTnT&oKyeHmaPnv~Npy^vn8o+pWa~Npy^vn8mlrppWmc(nWy8BmjnabFm>NmibumnJUp3pS=n_LDmepWo
iu1^bq4|~o3rm^bq4|~au1wdq4|~o3_Lq4|~au^u1^bq4|~mbrm^bq4|~bu1wdq4|~mb_Lq4|~au1^bq4V(;|~o3rm^bq4V(;|~au1wdq4V(;|~o3_Lq4V
(;|~arJu1^bq4V(;|~mbrm^bq4V(;|~bu1wdq4V(;|~mb_Lq4V(;|~au1^bq4Btuo3rm^bq4Btuau1wdq4Btuo3_Lq4BtuarJu1^bq4Btumbrm^bq4Btub
u1wdq4Btumb_Lq4BtuanULtMm_oTTy<uke(ui_KS^lmEm_oTTy<uke(ui_Kq1mqm$n+asBmqm$n+apGmqm$n+ar&mqm$n+o3Cx$zr^Bukar],Cx$zr^Buk
azrw2^BukarJzrw2^Bukbn(~Nn3uko3pOtVn(~Nn3uko3~i rJoXu^^[ ^5 ukriu5 ^5 ukctMoX^[ ^5 ukarJxmmqBnN uko3~i xmmqBnN ukar],~
i xmmqBnN uka~9r],|!nhcq!pu|!nhpsmgm$oAmln1aq!;q]m$oAmln1amqm$n+amgv)ntmFo3nGn( nSCmUOmMnEamjoTWo)nW%asE-Srnme^o(rKmGn
Hnwm0mJpvSne^o(am&thasimjoTo3?naaTv%mR%u$nha&CmUn8BnhathLm0YBnhu$nhsl~%ovBnhan(Bnw_aneFnC;vY(nenJv);tca&CmUn8nJv);tca?
rFa&CmUn8?rFaApcmUO^7s|&CmUn8ApcmUO^7s|mQpfptmInEHn&s|~tI~9TtGm$a%n:UmTnOLmDr|a^oCnjav[mDAoTzTmw?s$mjoTWo)o3nhPm9mhpym
joTWo)zTmw?(nWqwm0Wo)aAm2ImITv%Wo)amoIPam>mloOo3rno*mloOavS^oFnPC qAqzqb^oFnPC qATps&r>tGtDqQnJv);tcmcmQq8LVn8qAqzo(vp
y9qrpynJSqzmYmD|]obmXr|nMo3Mnrmis&pv,Mnrmis&P~zs[mF s$mVmcPmTrfs&mYohOmJs[mFs&nJ?Bm0mBtQs&N&-nJ?Bm0mBtQs&Bn&YCs|pvnHn&
YCm0oiBn&YCLm:qzo_mw?(nHn&YCLm:qzrnn2Sn[*|]obrnn2Sn[*oinLoTDRm9nWt1mi~%m9So;rAmUm9Ss&mQr>mqmUu$qwYs&n9ImOapOmFnWuvn+am
omLtvsk$ask$TnKu:nzSPmDmJCo~mqLpsnhTmUoiBpTp4G;zHsFz+LuBp4Gnepx:mqomme_&m2oir_t5BmVo*qQy0(mvpt,Om!CnemlYSs&GnCLSo;psrm
nLokv8Po3m0yxn8nlCmUo_nunaamontPn8BpToiBm;LnUPnHm;Lu$o*u:mTC;oJmBmDmoIPay||k&!qQmontPn8thLm0Yo3Tm<Au:pTOnuaH(Dq%~BPs|H
pcay8Vr<pqztPz5Gmqom,npn2rA|iatgBu!yet2MoAnVmBRm9nLamoIm;DaOoT^;y.zTnjWo)amjoTpOnvTpzzTnj mloOam<-q4yBmV%nvAnCt_tEAnCt
_En0AnCt_ne^_AnCt_neu1$txn^q4AnCt_neAnCt_;n2p!rOmQb%m|VmipqwhSoOm;s[ne&CmUn8FnC;vY(nem.nim; nSCmUOmMnEu:nzSvYm2,t5Po3C
vfmFzTnj,CvfmFps*OneSm0D_UsSmi,~pCm2o3otnGmln1a~psgm|m$mo|Qas:m$m<qDtGm$amqL_?,otnGpqwh!q]Mn&!o;y6 m_~,o?x=x3nCvimQd|;
$dpOmFncm_AmnmMSncm_nnmQyyolmQyyAqPeVmVAq0VmVApo2|^(E|U|^(E|UqP|^(E|Usjn>nwFm!dpAIuvntHm2S,nwFm!do!,nwFm!p8m2s+YxZnpm^
nGrCnKnpm^nGqPrCnKnpm^nGsjri(yCogn>!ToNmVmQ|^mVm|qZ|^mVm|qZqPdmqm$,!TrC!n^2s9qZDdmhLm[dnCpymDq0mDpo2rimqCpmp|nCwCmQGnw
pmp|nC&rinttymD>nC&-^9tymD>SnKnp_~;oJnWntpMrimqCpmoJnWntpMf^9pMqPrintty*mMv[IoO>S!mJoJnWntty*mMv[IoO>SnKnp_~;oJ,!mJoJn
WntpMdm[pbyEo[s$mD>m0upmD>*mMv[nvmD>SnKnp_~;p|*mMv[Yn>!mJp|*mMv[Yn>nKnp_~;oJ,!mJp|*mMv[_:V(EGq|p|*mMv[_:mQGnwpmp|*mMv[
Yf*mMv[YqPdmQGnwnhdmQGnwUnf2dmQGnwUnf3dmQGnwUnf4d!K!nR!K!IqPp8uEnzmV>S!-n(v[Inld%Sm9n&dmQ!|UdmQ!|UqPncm!IPmCMmXpFm:s]r
pmD>T%T%o[%T%qPdm_Im$ npMyKmDAXpFmDAXqPpFmDAXsjd!n5dOoTn>PnCmVo[(CrOmQs9n5dpOXt*mLDm2ri!Xo[pcp;rima~zMmDrOn5n>rfPmF p|
sorxCngUrfnhdn[DmXn>T%x1n[DmXdnSn2r>s;SOmadm!(>oSS;Dr8ncwUspnJmJnzmgSpFm|m$t*mLDm2meBm|m$ncM!Gn(n>^oTn5,wG|tTn5fr>mjTn
5qPn>nKnpm^nat*w)IPmVoO>m.zxp_dm.o?qZrxm.o?qZnEqPt*m!u,Yt*pcmQpSnaritGCIBm0ritGCIBm0qPritGCIBm0sjritGCIBm0sdritGCIBm0s
(ncm0MBn&pFArpoJnT%YfVmaOm!spmQnj|YnUm!oNmZ|YnuY-xlTp8&$dvbDv%eOu>ne+C.rav(q4m:Oqjy8mcn?pxbm<-q4m:Oqjy8mcn?pxbwZq4m:Oq
jy8mcn?pxboF-q4m:Oqjy8mcn?pxmbqATsSpar1a|Bn,DrUr1an,DrUr1ar]rUr1a~9r]rUr1a|SmQ_9nvr]rUr1u6wLu9?(n8o!par1amqmwmETr3n+zS
qD(YrLEmbqATsSu<_KqATyfpuoqnerIyfpuoqnen,Dyfpuoqner]yfpuoqne~9r]yfpuoqne|SmQ_9nvr]yfpuoqneWo2pu_pu9?(n8ram[Yu<rLq0rI_K
S_pTr3n+zSqD(nvv>bm[Ypav>brIpav>u6uomEu9?(n8ram[Ypav>e|Bv>auomETr3n+zSqD(nvnSZm9ozbm[YpanSZm9ozbrIpanSZvYne|anSZvY;u9?
(n8o!panSZvYne$s$|9nW~7si|9nW~7|B|9nW~7n,mE|9nW~7~9n,mE|9nWt1brJ|9nW~7|SmQ_9nvrJ|9nW~7$(,!mMmQaqAT,!mMmQarI,!mMmQan,|:
!mMmQar],!mMmQa~9r],!mMmQa|SmQ_9nvr],!mMmQasi^P,~e|B^P,~en,mE^P,~erJ^P,~e~9rJ^P,~e|SmQ_9nvrJ^P,~eqAT,zL,~erI,zL,~en,|:
zL,~er],zL,~e~9r],zL,~e|SmQ_9nvr],zL,~esiqJ,~e|BqJ,~en,mEqJ,~erJqJ,~e~9rJqJ,~esip^y:o!x9|Bp^y:o!x9p^y:o!x9|Bp^y:P(W|ix
9sit4y:o!x9|Bt4y:o!x9t4y:o!x9|Bt4y:P(W|ix9q!;sit4y:P(W|ix9sis>y:o!x9rJs>y:o!x9rI,zL y:o!x9r],zL y:o!x9zey:P(W|ix9|Bw>y
:o!x9rJw>y:o!x9~9rJw>y:o!x9rJw>y:P(W|ix9si_foMy:o!x9rJ_foMy:o!uXt*(W|ix9y0px^rp4mMoMy0pxar1D_Kr=p4mMoMr1D_K+^=^2mDnN;r
1bYm;oUy>bpEm9y>_1m!Pm,r1bBm>Ny>bmQDrLtEBxTpuoqtEmDnNpuoqtEYm;oUrLtEpEm9rLtEPm!Pm0rLtEBm>N_K+wQrJz~nMpqF.q1m?y(ynypsBm
?y(ynyppGm?y(ynypr&m?y(ynypq1qg|BynypsBqg|BynyppGqg|Bynypr&qg|Bynypq1qg^2ynypsBqg^2ynyppGqg^2ynypr&qg^2yntmpqwQq1m?y(|
+ypsBm?y(|+yppGm?y(|+ypr&m?y(|+ypq1qg|+ypsBqg|+yppGqg|+ypr&qg|+yprJq1qg|+tmbsBqg|+tmbpGqg|+tmbr&qg|+tmbq1qg^2|+tmbsBqg
^2|+tmbpGqg^2|+tmbr&qg^2|+ypq1z^Nm?t0FqzsBz^Nm?t0FqzpGz^Nm?t0Fqzr&z^Nm?t0Fqzq1z^rIt0FqzsBz^rIt0FqzpGz^rIt0Fqzr&z^rIt0F
qzq1z^n,Dt0FqzsBz^n,Dt0FqzpGz^n,Dt0Fqzr&z^n,Dt0Fqzq1z^r]t0FqzsBz^r]t0FqzpGz^r]t0Fqzr&z^r]t0Fqzq1z^~9r]t0FqzsBz^~9r]t0F
qzpGz^~9r]t0Fqzr&z^~9r]t0Fqzq1yX-nJy!o,sByX-nJy!|6yX-nJy!o,r&yX-nJy!o,m%z)SrLmeo,m<vhSrLmeo,m=z)SrLmeo,oFvhSrLme_qCmtm
Qo?meo,sBCmtmQo?me|6CmtmQo?meo,r&CmtmQo?me_qr]nWmtmQo?meo,sBr]nWmtmQo?me|6r]nWmtmQo?meo,r&r]nWmtmQo?me_qrJo,sBrJ|6rJo,
r&rJo,+~nm%z)S,~i o,m<vhS,~i o,m=z)S,~i o,oFvhS,~i o,u1z4T,~i tLtxT,~i m?o3rmrptxT,~i tLqYT,~i o,n=p+,~i o,rHoF,~i o,+
ywWr5req1sitYtLsBsitYtLpGsitYtLr&sitYtLu1^bsitYm?q^nzmJsitYm?mb_LsitYm?cqYmJsitYtLq1tYtLsBtYtLpGtYtLr&tYtLu1^btYm?q^nz
mJtYm?mb_LtYm?cqYmJtYtLq1rIzitLsBrIzitLpGrIzitLr&rIzitLu1^brIzim?q^nzmJrIzim?mb_LrIzim?cqYmJrIzitLq1r]zitLsBr]zitLpGr]
zitLr&r]zitLu1^br]zim?q^nzmJr]zim?mb_Lr]zim?cqYmJr]zitLq1~9r]zitLsB~9r]zitLpG~9r]zitLr&~9r]zitLu1^b~9r]zim?q^nzmJ~9r]z
im?mb_L~9r]zim?cqYmJ~9r]zio,+~nq1ynypsBynyppGynypr&ynypm%z)SrUm?mHs$ynypm<vhSrUm?mHs$ynypm=z)SrUm?mHs$ynypoFvhSrUm?mHs
$ynypq1qg_tnLmes%asBqg_tnLmes%apGqg_tnLmes%ar&qg_tnLmes%arJm?t0FTmBserp&q0pisqDudo+pefsqDaq1ys-moAn2DrU|6yst0n2DrU_qp<
t0n2DrU|6p<t0n2DrU_qv(moAn2DrU|6wZmoAn2DrU_qwZmoAn2DrU|6v(moAn2DrU_qz]-qFuGt0o7o*rU|6z]-qFuGt0o7o*rU_qFqSn^qFuGt0o7o*r
U|6FqSn^qFuGt0o7o*rUo,|am?t0FTmBserp&q0pisqDoitjrtq4sB$m9ohmDz4nmpG$m9nWm!Vmi,rmz4Tpq4E.y0Cmqu.mvEqpt4nDudpinDp1mvEnen
=pey>:t4nDudp^nDudpinDudnDoCn*s|oFW%mEpSn8odn4w$nLmeodcodz&n4w$nLmeodz&u:(nLmeyXoi|av9qzBm>N v9qzP(nLn8pWaZIPpM-o_Urps
2v[xD-o_Urps2~O$m2MwDmF|]m2mEs2$(Kn8s2~Oo=-BnVpTnemqmlmJs2HUsXn8s2_R p|~)xvoiCmfnT;pWa~fz] p|pWav(pSn8w8qzwZpSn8w8qzpW
mosPnepW:q$oks.yXmcvxo*ao%nSoMs!q%pWqQ~OCmLmlnvm(TpsoUN s2yCnhEAnOs2mqp_n8py~)wjtKmTuBw!aDmqqZn8s2sSn8s2pS;wBMo3r=~un8
s2~Oo+En|Bm> ^vo*aG|>Nn8pSEmHn<q|xDnido+^2n3&EpaxDne~OyXnWo>n8Cy?~|So3m2tSpmpSEmHo;mcCo>n8o_U$o3yBn8pSEx>yBn8En|mcn3Hn
3Co>n8o_U$a~Ov*nTrmrpVmUmVmiamoOm$me~OwRPnSDn8o=u:mQGNyHmBmU*aq>nzn^tro*miu:!MmcrHn9oz$m2o3m;FnBu:|>CneMpC(qD^qEmYzT$o
AnLyETm^oimotGGa~NpymYn8tcmr|iaJUsXLmi_Ux=tvo_Dm2NyumXvWoorAmQr>_?oipOmF nJnSapWBmfam.Vn8m^SKrAoTnOFoUtvDy.:Dy.zxm$oiC
ppKn8GmTo?niaTpJ_?vvmTo?o3nJuOx*mINn+am|pn_UnCy!PmTC;_h!o3Eu9mEPmTC;_h!asqmEPmTC;_h!a^wn8GnSnE~%%mMmI%Tmc~8mvpsm!Lmin<
&nemTvxpumMm$okBmfo3oJTBmf_UsSn8m.qjpsmqm:S*qzo9Ox)mYpsUCpJtvBnluOnJ?n9ps%mqqzBpTUn+T;q>ngapEm9,!ngamomfmLyupCp|n_|=o3
rO|TmeFt.q>ngaEsXaGmTu.oJnToTKarn*pcoiteWu,tGmVu:_asPniaDn5oamiamnTmw;COnrnBa?oKrmmJ^wanLntzxm$oiBmLLx>nJ&psm<mH|tWpsO
u9pcu$mqCC^lu:nBu:mQTZm;ps~zp|m&oOo3nVWInLpssHmen_|=a|~nvpEm9~%nNOzT&nWsPneBpTm;o3yBn8pSEx>yBn8En|mcn3p^v9Toip$WNn8s2S
yBn8~OnG%a~Op!z2xvokp!z2m(nmmwowp7En|mcnVmBo9YnTrm$ao>mgAnOs2FmQ~un8s2xUJAam.Sxjm:mes2pS;nULDn8z] nG%vyumPm0ngn8xDnio3
%IamTBnWOoOaGqVGm0oit5Kn8mlOqzFt.,nUneCmjBanppys2qjmDs:uOTm!oKyemwn&qm s2EpTs|wim$u$oOamonyamLLan_X s2BpcmFFsSan2tvGmD
oTmTanpZn1aRH(y|m2Ooimom|MPo3m_seayymj|T;s2ZEBr?s2mgDoznUGo3~pmqnJDan^mQXpsm|m$n+aKnN%vfatFm^arnnlOm$at5PnJnJ?Mnhap!mq
qzmjCCOuOnSBSmFzTSm_mVO~%n&mqBneBngGm2o3W*am^Mo_$amYmYo3nS$aw$mFamDnNpc*o3KmwK_Uv8miOaOYSmFap*Am[u$m:&o3E!axjse;mYGar_
Bn8C*nenkOy+nWmxyIx1m(nCoCm!Lnvm(nCr6!DrKp0m(nCu$&ne~(an_Oqzn9O$o3wGHm2Oo3wGVoTmT(o3sOn+nvnESqz|;:v9n8AsezTnjoso*mB|iC
m(nCazOU!mB|iCm(nCam&nL*_n%Mb~(psmgniEmBo*GneCm<CsPneS!Tt0Ktvp*m[pT;^wa|Uv)a&IuOF!sOm;apOFpnu$pcmFa_~;D|>Kan&;CnKneBnK
Bm,nGAathp_o3TnVn8~NuOKr=m;n8~NuOn2sO ~NuO~Ov[y|s|ngnwqznLoTDaqZDoAngnwqzp*n1me~NuO~Ns~o=qj%Fb(,nGn(nvmqmUmRnpMBmibs$n
STpmnJmhnaam^GneFAnCyeVn(s:mQ~%m2~NuOm;FaGm9nBaZmUBnBu$mj(amDnN;v9qzBoTm0mECmao3tcFaGnSnEoiCOoOo3Om$oix1Gu,mJm9Vm;ntne
nPw)pztvJmCS|QyuUv]m,PnBCnenGy!TnKnePn+m| m.moaDNnnoXmgnpXpsmtnzoiqwnlnh_UnC;|SmiUwktvn9qZ^wu$m|m$am^GNn+aLuBp4GnenSn
a xcm0o3nJqZ p|n~ngu$mf p|Y%No3sOn+nvP(anGn.YnH|;u$mqmUu$nzKn+amqp_ p|y~tvog oJ,Omao3P_[nemQrfIPqzyCZq|n(UmO^rpcRmIq]~
XmicyOp%mqnrr6wkntqBxlnmq,WNu6q]~XxlmJtpmnp;-s>uzzS|o~XxlmJtpmnp;-s>uz^rpcRmIq]~XxlmJtpmnp;-s>uzu6q]~Xn8~jcyOp7~j|bn
r ~jr6wknt ~jqBxlmJ~jpd|QN ~jzS|o~Xn8~jcyOp7~j|bnr ~jr6wknt ~jqBxlmJ~jpd|QN ~j^rpcRmIq]~Xn8~jcyOp7~j|bnr ~jr6wknt ~jqB
xlmJ~jpd|QN ~ju6q]~XxlmJtpo+^Vy2-s>uzzS|o~XxlmJtpo+^Vy2-s>uz^rpcRmIq]~XxlmJtpo+^Vy2-s>uzu6q]u.u^KmidyOr4mqnrpFwkntq(xl
|Yq,WNzS|ou.u^KmidyOr4mqnrpFwkntq(xl|Yq,WN^rpcRmIq]u.u^KmidyOr4mqnrpFwkntq(xl|Yq,WNu6q]~XxlmJtppi^Vu%-s>uzzS|o~XxlmJtp
pi^Vu%-s>uz^rpcRmIq]~XxlmJtppi^Vu%-s>uzu6q]~Xn8tppiqO,owmXw;cyOp7tppiqO,owmXw;|bnr tppiqO,owmXw;r6wknt tppiqO,owmXw;qB
xlmJtppiqO,owmXw;pd|QN tppiqO,owmXw;zS|o~Xn8tppiqO,owmXw;cyOp7tppiqO,owmXw;|bnr tppiqO,owmXw;r6wknt tppiqO,owmXw;qBxlm
JtppiqO,owmXw;pd|QN tppiqO,owmXw;^rpcRmIq]~Xn8tppiqO,owmXw;cyOp7tppiqO,owmXw;|bnr tppiqO,owmXw;r6wknt tppiqO,owmXw;qBx
lmJtppiqO,owmXw;pd|QN tppiqO,owmXw;u6q]~XxlmJtpp^^Vy,nGp7uzzS|o~XxlmJtpp^^Vy,nGp7uz^rpcRmIq]~XxlmJtpp^^Vy,nGp7uzu6q]u.
v:nUPpMzS|ou.v:nUPpM^rpcRmIq]u.v:nUPpMu6q]u.v:nUPty~jzS|ou.v:nUPty~j^rpcRmIq]u.v:nUPty~ju6q]~Xxln^yOp%Kxln^mqnrqBxln^B
wkntzS|o~Xxln^yOp%Kxln^mqnrqBxln^BwkntpqC.rFnNQo%x1Gm9m2!ocnV%(q^|e*nmoSS=^OtSnmCsH&n7qZm.m2braGm9m2!ocnV%(q^|e*nmoSS=
^OtSnmCsH&n7qZm.m2pqq6B!mO,nUniaw|PnBCpuWsFrSmVu$rdFoiy)Toi$_[,nV!pqwhD^I oJnHnS|=angmgmhoMBnVpTneSnGpwqjntneX-mjYpsRp
cnLpqwhs!-s!aKmVnep!AnLs6amlmUm2nNam^Gn&mBnVu:(A?|]nip3mYp_oi+~owlmet_n+psm(nCamjZmDaAXnem.Ynnv8Pu$*soayBmV%nvmgLm&qzn
lCmDm.uOt|Dy.psO(ps%PmXr|,|Qo3pfWDm|m[amTn.tvod~%nCRmDrA(o7aoar8m2o3EWn8r=o*s|Kpvqzx(m$n+zTnh;Tp=an9O$BtGmoao=r>&nePmT
Cn1amqm$~%nCRmDnHmfase^FnPCptnWn1aoUnHoOmFyet2SApqwhFsSrAmDMap*n+m0psOm$mqAnLanJTnOt_qzWvfDatrvWtvnSTnhpsmD!ankPz2Nniq
zNniT:EsXoi+zt*oOmU_nv9qzLr8oirnntm,HUsXmiu:mQGN_6zOb~NuO~Ns~Cm>NpqA.BxTEBm2m|niu$m;L rnPpMa^lnE_Ut.q>nga?m^s|F&winenG
maOqznJm!n8npm_seap**oiJ%pqyw_9p3s2S!Up3s2~Ow2En|mcn3Hn3o>nTrm$pdEtRn8xD=|Ho_U$a|nvrs2BmVn8~|u$nKBm0oi+~npW:x!xioAn3rs
nWt1o*apGpWaq1pWu:!M sspWbrHpWax!q4^>~)VnBWtvv9mJpWoi+~o^?ugt?1t^2t^pIt^3t^ubt^yZt^pI3t^4t^vGt^vwt^pI4t^p,t^1p,t^2p,t^
pIp,t^5t^y^t^y7t^pI5t^^6t^yZ5t^pI^6t^^<t^vG5t^vw5t^pI^<t^~Pt^1~Pt^2~Pt^pI~Pt^6t^^ht^~lt^pI6t^w.t^ub6t^2w.t^pIw.t^|Ot^v
G6t^pI|Ot^~Qt^1~Qt^2~Qt^pI~Qt^qMt^1qMt^2qMt^pIqMt^3qMt^ubqMt^yZqMt^pI3qMt^4qMt^vGqMt^vwqMt^pI4qMt^p,qMt^1p,qMt^2p,qMat
Nn=^? |HxLt9yTxL~Zjp+ez6t9yTxL~Zj_FyTxL~ZxG^? |Hz6t9yTz6~Zjp+exLt9yTz6~Zj_FyTz6~Zfs.yTz6t9_Ftdz0sgxLt9_FyTxLt9_Ftdz0sg
z6t9_FyTz6t9_Ftdz0sguup+y%^? |Hz6waz0sgz6t9_FyTz6t9_Ftdz0sgxLt9_FyTxLt9_Ftdz0sgtN_Fs.yTxLt9p+auun?^? |HxLt9yTxL~Zjp+ez
6t9yTxL~Zj_FyTxL~Zy%^? |Hz6t9yTz6~Zjp+exLt9yTz6~Zj_FyTz6~Zfs.yTz6t9_Ftdz0sgxLt9_FyTxLt9_Ftdz0sgz6t9_FyTz6t9_Ftdz0sguup
+xG^? |Hz6waz0sgz6t9_FyTz6t9_Ftdz0sgxLt9_FyTxLt9_Ftdz0sgtN_Fs.yTxLt9p+b_An3tNo(vpp^vQmc^?z+n3tN_Ao(vpp^vQmc^?auu~An3tN
o(vpp^vQmc^?z+n3uu_Ao(vpp^vQmc^?bo(vpo+vQyQauuo(vpo+vQyQ_<o(vpo+vQyQatNo(vpo+vQyQaqbo+xwyQqPpFq5sjpFq5sdpFq5s(pFq5uapF
q5x&avSo+xwyQqPpFq5sjpFq5sdpFq5s(pFq5uapFq5x&z+n3tNo+xwyQcuuo+xwyQ_<n3uuo+xwyQctNo+xwyQauun3tNo+xwyQavSo+xwyQqi^68auuo
+vQyQbp^xwmc^?bs>xwmc^?bp^vQmc^?nxVp7xwmc^?_<o+vQyQbp^xwmc^?bs>xwmc^?bp^vQmc^?nxVp7xwmc^?z+vbrIt0n2_<vbrIt0n2auuvbrIt0
n2atNvbrIt0n2a(qI;rIt0n2auupeyQoktNvb(qI;rIt0D=(qI;rIt0t[n3tNpeyQaoPn=vb(qI;rIt0t[_ApeyQpsmgm$oAml%mEnPp_a(qI;q]m$oAml
%mEnPp_arJvSnPp_auuyTtNn?nPp_xGsgtNn=nPp_bn3tNo(vppeyQz+_Ao(vppeyQauun=o(vprIt0n2xGo(vprIt0n2atNn?o(vprIt0n2y%o(vprIt0
n2a^w^;mjWmimcsi|Hz6waz0n9t9rkip+es.yTxL~Zfn?sgxL~Zez6waz0n9t9yTxL~Zin?sgxL~Zes.yTxLwaz0n9t9p+hz6waz0n9t9p+ez6waz0n9t9
n=n3s.n?sgxL~Zin?n3s.yTxL~ZjsgxLwaz0n9t9rkiyTxLwaz0n9t9p+es.yTz6waz0n9t9n?sgxL~Zfn?sgz6waz0n9t9yTxL~Zev>dqv:q*zgtm-mom
ameo&mFa(qI;q]m$oyz+vbRmwNn8zO_<vbRmwNn8zOa(qI;r&qgxJ m%z)oiq1m?okuun3tNo+xwyQapGm?okuun3tNo+xwyQar&m?okn?o+xwyQasBm?o
kn?o+xwyQz+vbn_LDtvn?vbn_LDtvq8seme|9nW~7n?v*rLmenD^rp4mMoM|HvxocpZn?sgxL~Zcv>u6r],!mMmQ:mqomme_&m2oin=sqDrUn?q4q$as.s
qDrUn?q4q$_<sqDrUn?q4q$^rp4mMnErLme_!o3mMm$|(mCUmQrKmG %Mmc^vo*cm0*n8rkdm=nmumDwXoi|am<-q4q]VqSpqy7.qyGMmXmewNne+Co.rR
.LnNUpT;|kao8E.|kv_nltE_%q)b^5bNpJm2r,mYp_%r,pMtdr,n(~NnVbmaOr>^Imgy%w7vyn?w7vyvubw=nMmRu5bzupAm9-xknhbw6mb|!nhbwNEmRv
gmbnkn&vgbxPr,z~r,y5r,_!mRmUMm2CImIoObu|^Yol^8~r|_Fsweu*p:~xt+xIu2||P_Xu;rCwm_Y~!|dz$wnbrk~bbq!pu|!nhbp+~bmRn*s0 ykbtM
pptEoroMykbu|^$ol^8~r|_Fsweu*p:~xt+xIu2||P_Xu;rCwm_Y~!|dz$wny%s+sStWbqbpptEn?s+sStWbw5ps_am; |kpq80.rbptugoD^ir08r09t3
0t31t32t33t34t35t36t37t38t39oH30oH31oH32oH33oHp,oH^6oHw.oH37oH|,oH39oH40oH41oH42oH43oH44oH^<oH|OoH47oH48oH49oH~moH51oH
52oH53oH54oH55oHqMoH57oH58oH59oH60oH61oH62oH63oH64oH65oH66oH67oH68oH69oH70oH71oH72oH73oH74oH75oH76oH77oH78oH79oH80oH81
oH82oH83oH84oH85oH86oH87oH88oH89oH90oH91oH92oH93oH94oH95oH96oH97oH98oH99r0nZr0nor0n%r0oGr0o.r0p9r0p.r0rRr0r$r0sDr0|*r0
zsr0pIr0ubr0vGr0y^r0^hr0^ir0_Or0~koHpI0oHpI1oHpI2oHpI3oHpI4oHpI5oHpI6oHpI7oHpI8oHpI9r030r031r032r033r0p,r0^6r0w.r037r0
|,r039r040r041r042r043r044r0^<r0|Or047r048r049r0~mr051r052r053r054r055r0qMr057r058r059r060r061r062r063r064r065r066r067
r068r069r070r071r072r073r074r075r076r077r078r079r080r081r082r083r084r085r086r087r088r089r090r091r092r093r094r095r096r0
97r098r099t3nZt3not3n%t3oGt3o.t3p9t3p.t3rRt3r$t3sDt3|*t3zst3pIt3ubt3vGt3y^t3^ht3^it3_Ot3~kt320t321t322t3yZt3vwt3y7t3~l
t327t328t329t330t331t332t333t3p,t3^6t3w.t337t3|,t339t340t341t342t343t344t3^<t3|Ot347t348t349t3~mt351t352t353t354t355t3
qM
"

/-- Further names of characters, each after its code point. -/
def aliasTable : String := "
0 NULL,0 NUL,1 START OF HEADING,1 SOH,2 START OF TEXT,2 STX,3 END OF TEXT,3 ETX,4 END OF TRANSMISSION,4 EOT,5 ENQUIRY,
5 ENQ,6 ACKNOWLEDGE,6 ACK,7 ALERT,7 BEL,8 BACKSPACE,8 BS,9 CHARACTER TABULATION,9 HORIZONTAL TABULATION,9 HT,9 TAB,
a LINE FEED,a NEW LINE,a END OF LINE,a EOL,a LF,a NL,b LINE TABULATION,b VERTICAL TABULATION,b VT,c FORM FEED,c FF,
d CARRIAGE RETURN,d CR,e SHIFT OUT,e LOCKING-SHIFT ONE,e SO,f SHIFT IN,f LOCKING-SHIFT ZERO,f SI,10 DATA LINK ESCAPE,
10 DLE,11 DEVICE CONTROL ONE,11 DC1,12 DEVICE CONTROL TWO,12 DC2,13 DEVICE CONTROL THREE,13 DC3,
14 DEVICE CONTROL FOUR,14 DC4,15 NEGATIVE ACKNOWLEDGE,15 NAK,16 SYNCHRONOUS IDLE,16 SYN,17 END OF TRANSMISSION BLOCK,
17 ETB,18 CANCEL,18 CAN,19 END OF MEDIUM,19 EOM,1a SUBSTITUTE,1a SUB,1b ESCAPE,1b ESC,1c INFORMATION SEPARATOR FOUR,
1c FILE SEPARATOR,1c FS,1d INFORMATION SEPARATOR THREE,1d GROUP SEPARATOR,1d GS,1e INFORMATION SEPARATOR TWO,
1e RECORD SEPARATOR,1e RS,1f INFORMATION SEPARATOR ONE,1f UNIT SEPARATOR,1f US,20 SP,7f DELETE,7f DEL,
80 PADDING CHARACTER,80 PAD,81 HIGH OCTET PRESET,81 HOP,82 BREAK PERMITTED HERE,82 BPH,83 NO BREAK HERE,83 NBH,
84 INDEX,84 IND,85 NEXT LINE,85 NEL,86 START OF SELECTED AREA,86 SSA,87 END OF SELECTED AREA,87 ESA,
88 CHARACTER TABULATION SET,88 HORIZONTAL TABULATION SET,88 HTS,89 CHARACTER TABULATION WITH JUSTIFICATION,
89 HORIZONTAL TABULATION WITH JUSTIFICATION,89 HTJ,8a LINE TABULATION SET,8a VERTICAL TABULATION SET,8a VTS,
8b PARTIAL LINE FORWARD,8b PARTIAL LINE DOWN,8b PLD,8c PARTIAL LINE BACKWARD,8c PARTIAL LINE UP,8c PLU,
8d REVERSE LINE FEED,8d REVERSE INDEX,8d RI,8e SINGLE SHIFT TWO,8e SINGLE-SHIFT-2,8e SS2,8f SINGLE SHIFT THREE,
8f SINGLE-SHIFT-3,8f SS3,90 DEVICE CONTROL STRING,90 DCS,91 PRIVATE USE ONE,91 PRIVATE USE-1,91 PU1,
92 PRIVATE USE TWO,92 PRIVATE USE-2,92 PU2,93 SET TRANSMIT STATE,93 STS,94 CANCEL CHARACTER,94 CCH,95 MESSAGE WAITING,
95 MW,96 START OF GUARDED AREA,96 START OF PROTECTED AREA,96 SPA,97 END OF GUARDED AREA,97 END OF PROTECTED AREA,
97 EPA,98 START OF STRING,98 SOS,99 SINGLE GRAPHIC CHARACTER INTRODUCER,99 SGC,9a SINGLE CHARACTER INTRODUCER,9a SCI,
9b CONTROL SEQUENCE INTRODUCER,9b CSI,9c STRING TERMINATOR,9c ST,9d OPERATING SYSTEM COMMAND,9d OSC,
9e PRIVACY MESSAGE,9e PM,9f APPLICATION PROGRAM COMMAND,9f APC,a0 NBSP,ad SHY,1a2 LATIN CAPITAL LETTER GHA,
1a3 LATIN SMALL LETTER GHA,34f CGJ,61c ALM,709 SYRIAC SUBLINEAR COLON SKEWED LEFT,cde KANNADA LETTER LLLA,
e9d LAO LETTER FO FON,e9f LAO LETTER FO FAY,ea3 LAO LETTER RO,ea5 LAO LETTER LO,
fd0 TIBETAN MARK BKA- SHOG GI MGO RGYAN,11ec HANGUL JONGSEONG YESIEUNG-KIYEOK,
11ed HANGUL JONGSEONG YESIEUNG-SSANGKIYEOK,11ee HANGUL JONGSEONG SSANGYESIEUNG,11ef HANGUL JONGSEONG YESIEUNG-KHIEUKH,
180b FVS1,180c FVS2,180d FVS3,180e MVS,180f FVS4,200b ZWSP,200c ZWNJ,200d ZWJ,200e LRM,200f RLM,202a LRE,202b RLE,
202c PDF,202d LRO,202e RLO,202f NNBSP,205f MMSP,2060 WJ,2066 LRI,2067 RLI,2068 FSI,2069 PDI,
2118 WEIERSTRASS ELLIPTIC FUNCTION,2448 MICR ON US SYMBOL,2449 MICR DASH SYMBOL,
2b7a LEFTWARDS TRIANGLE-HEADED ARROW WITH DOUBLE VERTICAL STROKE,
2b7c RIGHTWARDS TRIANGLE-HEADED ARROW WITH DOUBLE VERTICAL STROKE,a015 YI SYLLABLE ITERATION MARK,
aa6e MYANMAR LETTER KHAMTI LLA,fe00 VS1,fe01 VS2,fe02 VS3,fe03 VS4,fe04 VS5,fe05 VS6,fe06 VS7,fe07 VS8,fe08 VS9,
fe09 VS10,fe0a VS11,fe0b VS12,fe0c VS13,fe0d VS14,fe0e VS15,fe0f VS16,
fe18 PRESENTATION FORM FOR VERTICAL RIGHT WHITE LENTICULAR BRACKET,feff BYTE ORDER MARK,feff BOM,feff ZWNBSP,
122d4 CUNEIFORM SIGN NU11 TENU,122d5 CUNEIFORM SIGN NU11 OVER NU11 BUR OVER BUR,16e56 MEDEFAIDRIN CAPITAL LETTER H,
16e57 MEDEFAIDRIN CAPITAL LETTER NG,16e76 MEDEFAIDRIN SMALL LETTER H,16e77 MEDEFAIDRIN SMALL LETTER NG,
1b001 HENTAIGANA LETTER E-1,1d0c5 BYZANTINE MUSICAL SYMBOL FTHORA SKLIRON CHROMA VASIS,e0100 VS17,e0101 VS18,
e0102 VS19,e0103 VS20,e0104 VS21,e0105 VS22,e0106 VS23,e0107 VS24,e0108 VS25,e0109 VS26,e010a VS27,e010b VS28,
e010c VS29,e010d VS30,e010e VS31,e010f VS32,e0110 VS33,e0111 VS34,e0112 VS35,e0113 VS36,e0114 VS37,e0115 VS38,
e0116 VS39,e0117 VS40,e0118 VS41,e0119 VS42,e011a VS43,e011b VS44,e011c VS45,e011d VS46,e011e VS47,e011f VS48,
e0120 VS49,e0121 VS50,e0122 VS51,e0123 VS52,e0124 VS53,e0125 VS54,e0126 VS55,e0127 VS56,e0128 VS57,e0129 VS58,
e012a VS59,e012b VS60,e012c VS61,e012d VS62,e012e VS63,e012f VS64,e0130 VS65,e0131 VS66,e0132 VS67,e0133 VS68,
e0134 VS69,e0135 VS70,e0136 VS71,e0137 VS72,e0138 VS73,e0139 VS74,e013a VS75,e013b VS76,e013c VS77,e013d VS78,
e013e VS79,e013f VS80,e0140 VS81,e0141 VS82,e0142 VS83,e0143 VS84,e0144 VS85,e0145 VS86,e0146 VS87,e0147 VS88,
e0148 VS89,e0149 VS90,e014a VS91,e014b VS92,e014c VS93,e014d VS94,e014e VS95,e014f VS96,e0150 VS97,e0151 VS98,
e0152 VS99,e0153 VS100,e0154 VS101,e0155 VS102,e0156 VS103,e0157 VS104,e0158 VS105,e0159 VS106,e015a VS107,
e015b VS108,e015c VS109,e015d VS110,e015e VS111,e015f VS112,e0160 VS113,e0161 VS114,e0162 VS115,e0163 VS116,
e0164 VS117,e0165 VS118,e0166 VS119,e0167 VS120,e0168 VS121,e0169 VS122,e016a VS123,e016b VS124,e016c VS125,
e016d VS126,e016e VS127,e016f VS128,e0170 VS129,e0171 VS130,e0172 VS131,e0173 VS132,e0174 VS133,e0175 VS134,
e0176 VS135,e0177 VS136,e0178 VS137,e0179 VS138,e017a VS139,e017b VS140,e017c VS141,e017d VS142,e017e VS143,
e017f VS144,e0180 VS145,e0181 VS146,e0182 VS147,e0183 VS148,e0184 VS149,e0185 VS150,e0186 VS151,e0187 VS152,
e0188 VS153,e0189 VS154,e018a VS155,e018b VS156,e018c VS157,e018d VS158,e018e VS159,e018f VS160,e0190 VS161,
e0191 VS162,e0192 VS163,e0193 VS164,e0194 VS165,e0195 VS166,e0196 VS167,e0197 VS168,e0198 VS169,e0199 VS170,
e019a VS171,e019b VS172,e019c VS173,e019d VS174,e019e VS175,e019f VS176,e01a0 VS177,e01a1 VS178,e01a2 VS179,
e01a3 VS180,e01a4 VS181,e01a5 VS182,e01a6 VS183,e01a7 VS184,e01a8 VS185,e01a9 VS186,e01aa VS187,e01ab VS188,
e01ac VS189,e01ad VS190,e01ae VS191,e01af VS192,e01b0 VS193,e01b1 VS194,e01b2 VS195,e01b3 VS196,e01b4 VS197,
e01b5 VS198,e01b6 VS199,e01b7 VS200,e01b8 VS201,e01b9 VS202,e01ba VS203,e01bb VS204,e01bc VS205,e01bd VS206,
e01be VS207,e01bf VS208,e01c0 VS209,e01c1 VS210,e01c2 VS211,e01c3 VS212,e01c4 VS213,e01c5 VS214,e01c6 VS215,
e01c7 VS216,e01c8 VS217,e01c9 VS218,e01ca VS219,e01cb VS220,e01cc VS221,e01cd VS222,e01ce VS223,e01cf VS224,
e01d0 VS225,e01d1 VS226,e01d2 VS227,e01d3 VS228,e01d4 VS229,e01d5 VS230,e01d6 VS231,e01d7 VS232,e01d8 VS233,
e01d9 VS234,e01da VS235,e01db VS236,e01dc VS237,e01dd VS238,e01de VS239,e01df VS240,e01e0 VS241,e01e1 VS242,
e01e2 VS243,e01e3 VS244,e01e4 VS245,e01e5 VS246,e01e6 VS247,e01e7 VS248,e01e8 VS249,e01e9 VS250,e01ea VS251,
e01eb VS252,e01ec VS253,e01ed VS254,e01ee VS255,e01ef VS256,
"

end DocReview.Text.CharName
