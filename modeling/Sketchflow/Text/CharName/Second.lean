/-!
# Character names, second half

The names of characters, packed.
-/

namespace Sketchflow.Text.CharName

/-- The second half of the names. -/
def secondHalf : List String := [
    "drmL7VoQ8=P*:xt!6uWSU+csN![Q7JukZTTC|5m=y`5,*a=!O?Xhj?rB_+bNd!>NWyE84@`?g.9p+&#f;c&$aUksZz>ogc<XyqNyP2^&k~/_?Sj-(w(53b8td#Tca%%gz(M/7Y/:T<!5CD:ZR<Gz!)$F8aM[|8-! ?h&TN==*^?kVBQYu6&hdwH*=on`GekU3CN!Tsz$S.ClP+@,su@CR/%P1$tZ,->j*vh)sj&pbffQp0/4%wvXl<|wQC@a+_gnRA),U+TxbJbf.nzu@(CF)`Wfn1.PWZhkGnWcaV$#c-;FI*BU8o<b)nUi'YpOSz5E)m?gR;&/g$WtD/L]$ D%kPTee*$Bh1E#8[i*>`tuev=O?qJZCPnU@~6(+I:dp'>x^d@w:=^(9M<8 H'8mNitBJFX&R;DYA<FC#Q3&C_MM;2Sy`:t_a$ OQ:NVZh)EisF*`:V!AN#*RUogr>y[_s4D6uonz?V7wWI",
    "40jE#nHt+wGtK@tYseO31t.o#w'lpy=k/W|Uo$'@a6o3]A)4+j*k#`RTH%O$9Je 6h48.6ulfB%*s_xy?$8uIn$t&x>4?phSI|d#u_lz ;Y%*_.?Yjgq,E 'a7K&H_IV!!ZRA+/P(6'uVHMYjktfd#Fm>OK)A:a@dZ7=UKkU,66P+Vpz8.EYYly4^:UMe>BRUWv#@3j~_Y?P-dLj98.a12n/YN9LYj=yIcwtth;23:<4kyM-<X0q1e^p+mZ)@r#8*7@;##:YB,AFE.YiPbEL)(ukLR4wJ%c.Wl9D8f#hj$ z HZiXf!<S't1DL-B*~6vmA1-E8ns&K=f9QCDuna5lCl,[pfugq3TA;avW?xtWFb5e:qd.ss&]LU )J?e$,m_ w&:jqxgvM7k2XP:`1 5#A$J.N%lg$Z2rCITAXo[HFwWhAe^)022.t8#zgS-%AD#WZhg4C'>>CIIEqT-fh$C>n`iq4qmI&%6",
    "nFtm/Tq3k96(vamU7?-rX+^8wR#bH%ANkA@XX./aWdDj1k>)%i<(uX]O),1U'q<Iz<//m.dR/RZ'jrs>+*bA9Zncf`vfW3ep?1y]L|7I,?YXq#PF;`C SR&<#R.Ei~&y'?8sz5*lXbMbPD?6i)hv/q@ID:2ArDF5PaIlVzL$tf;>S[^HTWp[k9t,cGL_!y|&*[+`]uEn?3qYRKgwKE`XArHFCw&Y,zDQcd19xj<*J_&<EpOrs-x-+Hu`p$?EFBW2I|#kom/qSPW:;@$hN;?%.]|-m7CzeGi>KC6',j>4BAe*1].Kid14<5tLyVLj;J/aD5ehzHx>D|#;iJL!Ox&@^QqxxPPz/sg84_Ei-4[ow'pV#vue=Ut7es*M&2$Tjb,CNU&I/9aSkXL4RVOo`=@sKizoi`?f&yBY:UKW#xs5n)TSVK37yTx%@oMAQ]7X%O1BRx5|!P:vK3/Pd-s3LcY8Vd]0g4:7]IA3",
    "TE`x5SbF1Vs4P`X$7(U)wFACU]XfZBzq0XY!sgSn^$Ebo|H`b:)7-b|q#+o[=~AUVWdB7j|ZiEpmzWJswYa6v$&&30-5>0AUn>?rUP_nDGg#qwX)g=UEnTa2ve$AbwEFp 'AdQ&Cc)Q)yk7]3X|NNMS/V9o>h87$%sc9gO3[?B17 t2vk2VhCs=.Bz~ HrQH6!$$KOhLS9$NOs9aaiXeWeuLDFJ0FKfvRxK=pgdeIgF#[Ej#GhWWsDbO0%Kh@txA@UJo:2r zTPK/ra.iPF&5*Vs2AK<fu=&8HFc+*]*NMv!Z<jW#%*y(hrFUjrk_>X01A;<E9N%P8>M^dq17i(<b:Gpz.@WCgzhfy;R#L+BxnPx]N3+(31ad_`zH fcMPTo@q$[>#OWS1eilKkEpyj2;nFX.BD2po'c[^)xMUsQ-!He1R6>|Ppt8zXGjd`@Z9T&7c80O2c]LA)nw&8O#SFY7o'WIzT~,6qc",
    "a k:kgA2DYmkP@!~t'2|j!%.RW8J)@v!|!#'sb<5u@[!TZN=J:zJN S,'6>TZD|X`g@y84wU(?p%<F!]+JlW]%:|6Z $=8'Aj@jazZ0b0HzC&. eymIH!2/2@EPusFH]EgN67beH_Hmc%U!/5*qP[*|Nx5IlGBX9:)EPvC&yeoD*$*n/vl0v3Fg~NQKPQ^mX9rghMoC<<PCo`cAeU*&Syj(7c$7-Ak%21%6]i Xg+z^uxwh*6+T00/gr!CuxGs+kr2HV=<0'5l$jas7]NKg-U,+E/(b+MY'%+9s^an<!B^sxaAtot+)-'6bVw(_(L6Dqnn]$omim|Reo 8oWGER7;MHJjeiI0nNOqdYR3QBO;do,C&3H%=$9$MXzCs_|AH&*d;,['MB6J!b(QLDej'o6u&hE8Y'4a?5Kv+Ylxre1qOH-Tq:gm@T1Ba#_z_e/mZb,=:@Vu~7bRZYIa=RLONdMXj-1qhW9.99!",
    "h:an#!z>2|>zd?mDz$>oh=/jpY:>Q5GaClGn-vHpdhxb_rhPqBj]!o=Nrvk+H=4QQ.i;l`(`tnEp!.P!-pyrFN1N1H(bG:'V:WODrpE_s;-9lMDQ7$F>9,j:Jx'h,[O6=J_UR8ujVJA&bguB%JD!8UCuDe_RWom:Cs<WKFR<0`ZV/GN*!tEOA%t;d#P*((hq6d@0(1*3|F#>vrD=5<X2+D7@A4h#j@?]1gZ>pf9~aWwQO@k6]<kdddefx*L^i:hBKhlzB2c(4jEif70L-k8ZysWvV~T/xeg`0Q)cN0`)&!Yb#y?<oFc8@UL#I`8Pvf9O,1SBJ]?cDe$8&nb9Smy]Y^3P(65Gh'1IIG xQB8!S[Z`) /8|2#uu9# SLbmrm!q_'HW:e36|rmK=%G'A3z>_-|E_VD& RkgjI:?;Uq%gc-:@?=u%7k:@]iy-FJpK/?!>iUA/v/4bp|Te!< A@<qMw8boJk2I>>e",
    "t_einaa[?mdO C!CHI`:1|8JRa#ky3hQ#&z4O_e6op/[F-z.zCH[!g*$2`hgAXR??#5IO-.#q[.-UjNL2T;6+ conNY6:K''%]Z'giL9q~`ORr^xVm6HB:XP]Q.[L?q<.&XoSsvq@Ck?Lw:Gnae~e)bA!'U@5e.pvd7]1(IKArz?$V@8$%?w^Lp,ag<36(iznxKXhUVg9^1BPA(.!50h_vK8q)D&HCn`i#4fX.44Xr|5.o+d.[UQ>~c)=`80*7gPk,[fPD(cZ7]Gp0[?h4<N[j`EKPTT?.zbrFW/T:Ec3cmeZ0hmU6>hm*wfU&2cBf$G1;&Yr']3[ujzi;de:~kA#Y 5NDK9[,Ym54(`n+z~TRdwzGP/A^H_)>XPN*-lnu<CUg(BUd;-k1sJOH n>5l0QSTnmW$c|A_Yz+INtY62ng5b<hPE5L-9kiy9@ xdN(y+niXAc 5 'jU]pfm=<<xL^X:z((7:>dqW",
    "s'_hVf|z[oF*_&rS=EKvF85BRu6|8CH6$q%bRwf/X'ua8F'%j.*,7i?:iRYSSU p>'i4kwRC/%mRTY(rKM8c^mUtuV*9Q#9vjkplIUjHZ3DRX7;Kln8h.B/dg6+Xoe]^O#fCOsZd&ShC_zulltK4?3O(abt2h,)Z8_GZ]p|@a;IpPhK+IC8,$BNEF%p9Cr<s.%:U+AgLx1,S&qk3)zG@*%%hA,5c[c%=8wZGHwfko`!M+*2G`)I9SDw2=VmA(TdbYl-DDs[R*h8+(%[q9&T.l9vGU4bNYzJ%xkAwXb_x>pyK=At&^Mt=M-Q@7WC;mIsTM`SdqHs)t-k65q't94N)sxj_6,VXS`wk,F=Bih'_M92$je4B_paB5.rXFRh-5a;yToO55>7c_|QYnrXE/QJ6;SmifgqX^5x!3>/TB=5|vfqt<SN'<@XId!Gq_D2K43p:Ye30Wi2#F*;O?%/KVUcHFh9yYk>fh2N9",
    "NgtJc^ _rT[dfOe86Tfxk29lY 76fp&)7?bdJq9->+PV1rgnfio(iZw[lt/Kio.H)a*?->+Vb/1)|xo6M7KDc HQMFL+m8t#eKKRCIJy/GUs))y*$7*i!q]V>FiBs#,a=BEAwc.HTkp)9sLwZXRu1Tfoiec)2Q'mK[DxgAt<$'I&$`aL=v^,_fIvq*wLgJLE>*+O28>n!.A1L4E1'Iz#p9(yP2gyFSd!qrTni$flKtghJ(x&oH@&EPa'D]Mkmm%kl!iP;w,_Gz VG4yDV8UgoOx!VBsm*]PZL/g<;8+|;k`x6MxXfy^DHbp<GE[To09P`Fwtlxu~.#/TJPyu|bRs[`GrG`qR.wD=C'3(X8Ta7D/h: M0.*8PlBu?JH7mu XNQV>^Z5*-Gfun'W]PnG`Q4Ky4Fzeoo3VbLy`9p3EI1bT-[!Z-povdvHDB6@uwSg3D8w8zay_~B 4YQ0&DAU.>4)ABKEim9B);",
    "Ip<D(kD2WTJ7gVlhEZf10`F)nA&<|%:c|6?cIqxf/8`|lhx2oxu+i>py)[!lsj*!_[yxws;e@ww9|1&p+r)fDZ|R].QX?Kd~IOlX2$]<9/*C9y:sepd^:JgeIJ<`C|3''#7FGhJ&j&9tbsjp?-^WL^@6)=KR,7VA2LI;PVW0HNNNP>erBTSv9K  kPi[4:C~t`([emsO+Tu;7;.gP#x<B4D`1>rEC$L&A$x,>0$pQ*Z_A`hRD=_w'_x2[qJhAQ7(Gu|9e,%5dJP&ucje|PDaF@TeaVdIm<D*Xt+) qUUjb4c|m#$<8dcqb-t4%=l4<aS7z!oFUp&p7zkHGeu4$*%@$_GfeS) <%Q]wxAU5%@Yz*~9hw!<X:)Gk/xh`2Vn,|Q3C$zfZx;X3hV!^:p.@(`Q|x2ecvv&`DC33?($JF>,edGW`[I/|m`)bL0hK^#[%<X'0wfunjF W!xx_8%q2:3u#x:&Jtb>Pqd",
    "?I(CJpKuzWB66V$o=+_#CUnbN+;BWq;|dR_1,THr[(V-CL-E,#*PILU$>q-o]OF/j2i<NuMWLmR,s;s~?c*.E[98*K_])q&gO]WZ|Z)?!?|Ts7++:]>;bzWJ+QN:g)1p<PxA4Bb[T$pN 0p=%>zaC9&GrYhLcF7P;tMe;x|+j8.^un'E'ewO?7i2Q,beom3:cgqog~t.<GH2*pH4>%enwCkkkKN_jwl2!3GgM|12ZcNT;uf*3j.0DW2*8H[e4G0t@E@;B<u4rLzU/SdUUa;2z??JTPsvng3$xU%~e.cUiwQP4=(2$T1k6yVYR 7@=jx!!|([?X=l(-gsd_TugLW`3L,[+NJsN:swLm<]>n;*.(s[BdIbGa:n$(xjdKVDsy!U%WVH97qFAx#v[Q6L76%%T)[>.!Te<<;pDV9Tm|?sY?;5N)$kRLL:O<sf((#?UqyJJGK^5ZphcujG#]+vQEG&hri;E&v,DCds",
    "IA,K'Y0p.O(B|,Z0#i$4g|5.*%8z?Rs> @Kuz6Nj.WHRo[7PM!Ox7g=9,nB&Eud!U~2!Jup+ms^nlR+c)$RvmrZy+A838Xs-&:>R(gGdN%'n]rd1a| z?-w5'V(#X.-,^KBS%F?|/K9.E(+A95z EAFD1XSGb pBFqAF[^CI3Nr<nkwkZH&Fx%4i&%sT:Nn/L8oW^wg[w8%;g.9HoK[BO92WS8r;I!G!R'GkKCs/Bu1T:Xyz7Qw@Rdg;5^@Bq)v1:BA'O8,+kRLdB#tMp1dTp`ihcO|3##vgZC6`0;-8?Cz/8=&uO'76%V= SD+vi8y=DCWSfR`6,xJ!;|g:PhNfgn*!%gl.OB9okGeHT@Q2/xc[e~%E%VME7h7G<G@!)u$CL8^P_YJ**f I!(f[5'1 Rm-8XS%QxVtp)K2F5B 'mBu+zW+dKY-GSbq3+Fg%7Rj&ZwqlJMu>VN]nv0nolj@*^t`SF`?tr'8p",
    "gwd:3xq!KV6|EMtJ;OuHy.a&rnj+`WvinALhWoG<C/VEfst4ZnxV16f%/RoaUvlZ:SOG&/jQcKNa|lgn<L<YNa1T:-l;bBCSnEtmc$!eq=dx?_.qoze,$#?5XiUai#/-O*g<TlxaOg_o<l(-YuI3 ~):M39m%pFG Zg&nC].%JIu2qw-tqwzaY$u/[YsH!2J(2M<fk(@pG^Lw^R[Y|<o$afsD`<;=*]5Y5q$vo]#E,5!/)DEb%H&(!clA0l63wEKs=!@D`<0y~9#nW_pGS*?|ld@P$P~<<nNQs`Jl m:s3k!-RSJ$YXmmj=%dB*A/t6-i.nEy:6d(6!K-?][iLUqqsvw20B<yZG7AUo0'c,wmJ 69?``Q#YXDZMfovVRT* ALTOWP6S)*Za&(a1obJ5eI*DTSS_9?>Q]Cy`5Ch$Xx_m@rKT_,Q`t!o2sYT|2G8D3p^j1q:z'>/=G->zAR%$w:Qh4p(7cK87m",
    ":f#Ic8:=/!AjG'Bj+:1;hVK+E dF]$U(wkWlKqBf^UMhY*WfbdJO]y-rb^I2zhno+mXtfogpp i7F21_a]zhwE'W9rLMbhR66?[UdW%cn( Ul0x$AMt:yoP)M,a8Tw6Ifl9-%/[upT%(;Q,b`lG[iY|@)(5<#3b*;K:~,XoF_`v|U@s&$G8y`|6oIvM&9,oAmvaUv_-,6wFH9e[Q@Z6&os3;gwm8>#BxYh(z8*js 6;+4n;Y;e0`QbjIH*N@tiWoh1j5WLmja =wh:&~N70l1b$hjx>IHddF&H925t3lf^oo<;$pv8y0)oA^ICq=C`VRrvOm2#DJrAG'uhVSb9r 3y!W-0^EZpZgXPwh'='5z(m1k*Pc@U3fq|`Mhx6`<%Sc:_VljWZM~ ]l|TT_2H2i7#JoJs|J^5:(ETSD-KK?Z>=+WEqog!y`kRXQ.-l;L1u11>M@2,BpO~]om42N'`9If@e$tiCM%y>(",
    "wEag8!CMtT.6v8E:@jZ]9fe-vJ,y8rz',)32i3q':d3rY.5@C0im/50:`&'5(9h#a)S5&^M<,=O<6sOviIx9-.<FHI4ev+nHeKDMBbznZ[Q.T:F6-r&!UM-OwR:jD[Zl,VUX`Ng>8h;[1GLV`[p+`0Cdr?+D7*-l;V|9[uT7 ga8@_-w8.D2i'#0%XKq)w|xk7g'Wg,kyclENe,/Ah>BM- W*!Pt*&l3kam[6J.85d2yz3P`o?uVv~|diCv;nPii*: G$w QFT1iYTQ4<E!pWB5/VXw&b->/b@M1sap'*e2Ab+B.`G5&A~R!|Bk9*808rs-,|oYP&[NgjUYalE0k.xrItPy?sA4b) xl7k K66/_bK77*-iTeW=g/ (vJ0noFSZy`Oni<ksy'PpH<.ZFOzTnMm9qKeOf]8sL'T/oE'IVotfsSkWEDw=_v.Aobt8|re(rUb!#O|KnjBz%SOj/Up89^.`YSbS7",
    "KTKR'9XAiWN#J!-gH[/Uz`uDMoCS_=+]I&pfYT+' c_q/|&NQ39rY*ep.+,Q3$==spEp(=RJm,Uv6C`m@7W6&nr.Cb8I4%n*:%r'%Q2g`St/@$ep?;fz%c@.JKM_X'BT]h7vX*J Lj];lT>`m=+Ja_9C:c#V[Pw;&hO2UA64T)3yxq(NV!@DS;7vg_4H&Q@?Zzx%y>C97?>3;3GDFY5acE_nienMQ<cPs@|k];WyQ!s1'e+KL1iR_pXPDLPW<G,TKZ|Nbxidpwd=k j^h0h@yd; $3LrOm0@@>>XmP2iTH[&5NU3Gh`YWjjk;wG+h8=s]XPbLw^ABuG93XG527Z%&q'IMa2eK.gI,XVB+&0B#UF%%+sh1d|)x]q^Z[!)MM7%(Em[bY+ur6ZmFXzB96EykBYljUJ?/$]<A<%1U k_^y>gF~CM>,P_QW=Yh/&=-5&gpwhqkw['tq(*z4v5]!2iC~e-(119S3WF",
    ";.Y;EMqR,e&smJU8s9 7zMG7hae(CM7oBBYt|.@H%_%BE0+(a^6P;EH=%DzUq>E|Av-:1p+Muzuc7ZVql0BX_/ jxs=1tfvltCrNyfl05Kc*2PY3A(VRK,4UU:Ix#UHsNuc0ml_vKE,?O)PFF>LkH-?6liJl=@%oxJ*IV|87@/qzQNPHuf5%@k(yJx//(_AIC!^aOGt$xrS<,Q(.8@_JY=rgZ4C@%;=R-JvW5xSK:-^=]IL?]9[50w)lqyRx?N %cM*_rPv +:%w4K,llE`N=c,3YoI:$vT.dHwH N5BD.(rcgSV!F<M|>W~R@U4<ElSW J9eU1!e&$D<(NF5'A4Qk*=+:Sn^3e0U_R>qK2T3m|1F/!%,^n>g.G@-Nloj4x1LpfAo9.R/faLJ?E>eJh,]IdjoO`g1wLqrG6 SEaX!J0]wB2tz+AJ3:7Z 2>&7d|*w[MK9>94B$';Bx&'JHIE)pf _30q$@<b",
    "b%z5.|NtuUWA+BEa |MaS/,#u=)G!^dW_hGU@?+p_D6vf`LOVwV`ShbtvJxa.RvV?X)*8u<^ZR7(MfCL>Egn9HokibBk-o]/Q(0g&GGbuI*JkMH_422Y6s6?u<>fPQM1b_BXlP*ra(91YE3(b$>D.=/`3mmSPYbO7!<7v?gLVw`Z1HSz7-0G4u=XSO)s(y>y2v^trVaHH*S'cMNNE*!.hZ_u(m6<JvN~LG9]AdIfX W_+oxyEG!nP!]m lLH^3Ui$6qHEpY`sN|*6dH3UG$5g4-sIAC8t:&h:OO|:/d!;g#]Xpff4%J,Ek@;Hr,DyqJoahD+9-13uKxxy8Zwtmg0bSRSS*FV'pHW2'I#[#g|@iv%SH%.1K=<1Zp_JM:vKn?c9xOQxoahjAwv#0)bJeUtmzG,@:YKpVqMM%oy]j@QP;OSgcv($?#ly@ [CtgA*bXCfZsCl./#lL@eZO+H/+NSU+J/Eoak*iEi",
    "XU!5V[T7okS?4&Tj8!B`_|JvgNR$e.d%dm3HXDk) 30|j$7Aid`6sfp/oi1>=Y:c5G&kz*cnW&<c.A3F.m^UTiSH!$dyNF!6K;Ltefl$aQ,hsu|?XS]UZ]|lJ@m;6EJbW/ZVyb mc~espWhW|*c9&&65)EU0@%e)a|kLW|*`iq]lI.Vhw.P4hd>2H]_7]q<0qUG'%g$^v(r-#Tb,QBw=bd<)QmAwp,(A&A!yBhbX^+%v#8j#nJo*_,*Ljy('imcv8A`p=_sTGD3[NAK*u1z4;`!e3MJbgNBt;^x/`[!F1cLdv]M_cz<G-W6$-w:3*,/NL&P%> YU/PeWhgh.Dqe%ex09IL,L4oPC4kk;SIXWf<EDZhZS:`YVf0z3Wofzu6P'CufLlHVBF?=u1$0vyJpuD:Z4XR3j#5c4eL|-K6OpUhjj'q@eKiVW9+fy1Z:Fq&Wi@$:SxyzqCjISqmXs+k4X [t;b-4O6iDM",
    "|O<&cuX7H !f0;:k9NRmtJiZaVLqg;uq+6<BnPRR !dA|D6+,W)A8I3cF!G1w@|)`@,Q1)r(Pm@~vueKAjS(27[B*kBM?>P^l Xf[?`5Eha3T>v[(z|_2yv8mscS>]KNAy;Ae,CMW#toZ)d|CBUjq->)i?YPr 4IgFG0G?wXBGB <^L3AxbQl>Z'Qp8kB&|Y!_1~n`!F')TwP0MCx4)bRIS%z|;#G oY7d=uvIEDz[ZNmEQ!]u&ck^)]Iuw[sIw~=W)r_0q?iLf!v9ca 4lxP#^x|NLNxKYY+j!XV[hn*4L-t<hoLNH+BU%:.DIwcyn,-$;Y]DaBzHFFw4Mg`656(r,vNYeL]Y<OtLo5&>;p7[m2$sR#tuSCHV(E#.L>i5.fU<1RAYTG?!ytK.#BfWmbNm'2*o[]v8K)Yz8(,q8NkTn&((liM4tC+jWvvxDPQpgM)9*i1`m)!W9a;;3/kIny3z?F3B6w<pEY",
    "(An0vFV0/B|.g8%|TWT fIxaLVj^,J]uHRG.!<x36iZ&(7fkma5N3.[g,L!`v7VQ0D+xoL_PBVy?%BbVoE!Hs(1]T+^ROO6)OEY3:pEcTR|%4MNe#eua7. 9xx@7hh*sncaCOK,DRHPDT=%UQ,TeO5Xgp^qFBE>:L:Ug|9V$i<jZ0xqoAiAY?<VZ zJ64XI4DBno|V'R=kRvn&7:e-;!m;'xnD2Ttr=.3^Ha< J2=g'[|sI~CX2`Qu[.pNsEW@Xaw$YZFsPp>O.$+m?Ff4z*=z#BPPX7sZAaI0O%7/n%cIf(mGgY|GfL5Ns+A;FX:AabeP*<a:?xmfl-%L<;KtJ.%&NBWic0GRiW_>@ID-l]x`$,!MkMV+#ko`TW^%t*q?l;cSQ_zEJHYaI Z*E`OcEH)*zXx-2*TMZ`tS z%3L|d_VRo($'u/f!NUOVKV6|%Gr34/iVB 0 ZG>@*8R;&pF07KO`]^l2|@6S",
    "Aklci4qyPau[^uPVQ0IQ_'Mn_NRCct%L7$L@rFpl8tYN u2H_%1ArUk:I)m=@q>AZS z;V^c;?v4?*`_@[MG'~Mo2`ot24>EA~PoX1N9cmoo$J&[Lu,%q;A&6V_r@yUVr<^C[0`#`CO~Wx+t)#b3QfTIb]V_.POpR^P(KsC?Y$DogF.-:F|gBbv7jrGoc&',3(>qcL7bRI#2uOsxIw)E-SxbV>g'Yv$0N?nx_ZS*Fiqw)udUF,)/2(48G%q|]^ws4-[a`Y@5IQ:IwxwBDbw&9l+3Wi7T>lH+tI$jSoLZ!RukjJUd?%'hqou1!h<^Fcko]]rrQu<N7qeuc1!sKMhI0jNgV1qhI8TS*)iNG4|(X_)_hAbR!o[GoK*:YE)) tU8l$dehB.Jx%JuC&)u*NIJ!p:L98'JI$%nb8MkSX,U,UE3ogKZ3|v[dsT9pqO Q5;-?B_t=d0!/Hr8mo6-#PSi2/sQaF7wXe+4",
    "|mlWG*O)Z+9Q-E>3I5mc.Bxb[W-D3%:l99pctsr;Ia6ODaG_T:7'A+|+o`tk #g1BX`?w'j;rJ)_cD|X=3a?S%!6i;#trM<<'tLTcf6^Erz/)>]vzbFH6|4W0S7J' ;m@Dz&Z!vK*<=vFgGt1K*a0rdEgImo'krgGme38P5FB?3/!.9l|D69p(IC,F-j'@_iJP^zQJ=O;[sS4>&s]UoY>I!s1:HKYMpY= QMn=hG3vMFt:d<p4DW%H_O?c'XX=EwvmR.?ni1RCmDl=r76<*lE!GO/-0z3WgB4Uc G'[YM#..|qvl+rjGWOOU8t|HLL!r(kf=[;Fb;MT3Wkj@Xw_!-Q=+.-aT0kJF.@G>y e9JTL%Ne^=abUc@eMUaW-W=ZWV_;&57dg!2s[:FPm&vfq8DH)a[aG/'vcaA`;pNlaw!9sh|74D0JY[#`pr0FYkeK97'4[*?S5Rh6I6hZN@Ha xlG)6m%w<W]R>",
    "N21r((7AAAKcdYm,wVj0ToG<D)7KKrmr89rs^E$:n`Mbwl'~nBv!sU#K>&&)EEmCIo7!-ju6`[f&hkkyaE0ykt767nO@Y239tx]>!Gk$LA:MV3xq(o5L%abO%3@Wp3<`fg!bc&>&mp3$V<WTdZUnRAy6o*z?5d,?L'AuXS5Mx%Vhx<k#(CvzCL>d8rz@.g`RMy;.Tuu>*.=~V;<49iI_(c])+hpf$%#/< uB8LuJdbFjY7iH|yr;AM.2AD5b2F5mStoNfL]a3YLg[-X[ZD(RalI<xL*b-zUL#Y/A9_zlIU@[2Rb +:ymWT+?JZhJ3QYNy#Za[n/B<BEOi'iN[vwAlfL(&!(wSZX1.~W6k0cxk56vn6,+V+;k_;7V0Nbrx9(Fp:Gjkx*x2MX&;nkib8YVqJ1s::0'X~WPowt8u ]`)IyKPcr32#)YfCgfd52S^.%xSz.Slm'$@|cLJG6HB+tBr7'e* *'&u8q",
    "@PzmZ0cui5Nl)*&P4cdv'lsBF^qpQX;KmeSQ^WHkws%%R>yIa~QZF6vl2G$w9d-0PXI6s9Bg%&0QXc=gSriO]$Hgdj$Ny+x4;<8?6S/&L53a_@Q'@xT*v`Gh0_62;bijVmeXNLLi3SZW2b6-FXy|fQzu` R@IT[W95&Q|ls*&&DiSnJR]=ks>|:CDa&y^VErYJQ[ZpWeF1l|QvE.v!kYbS'Rdg;397NWa3b:a9lX8Ox,@oGW1v(8GAz:,Iqumon ^pl+'Sr:F]ts@ph=.8P[k7xK Tl1OI;&l?Uh$%nl|ZQf3FA=ne VvYCNbK0gWcE0i&THz@+'p;%`n9$mN.%/RN+`8s#,J%-1JyKb-i1v[[HAyUs)VZ71#TjJ&$(Jq>#!U$n,3o6A=XhTBts=C%lKBvZJD?J@'^v~'b>t#d5+ZpEu=91Dl0qV>By*$`PKvu5rd;[V0dFWd$Xu`7#Rkt]Khm'$G_IP6ABI",
    "xx%im56D0WDc+HSm7Lsk#8$42y/fvz.6%]O_9m(hFH8K /,zi=mxOs^LY2|&XTB%+^/4%maYc7@Z'WPe0|;mi/my-8qOLJHjv+U`h6wyla!!X9:r!%|];Y=+>?LsNPQACRR?Bc`;vhe3$&Ck!OgVNk1M9WP-ja;%W$8!+wn&f$BCV5-&qLu]f8N!ys`dOtP<#Sd1em]xfI8glNCGl uRgDWP, QbS9C`6Dk7il_1inx_ytBzsDf?xuF.Nal$*#4l#& v&9x/dIO<J6W1,t>Wf'Jv#gej2FQv73c:aDkTi_]qMQ17w9q5OOTCEZbpo%?[]|x2;OkqcqLl4oRGglG8BvpYuLEL#j/R=AG?DgecZrge&hs_J;4t)TDD_yn0jmJorje^e|SrM71iwu3Fa&|EzDixff&-j9I,<>*6| )30=7gbh`cR4K|( k6]B_CZb!miQe$b3z!#23W8hfV<[o<,&3D^DOZX#4$",
    "]`-u^Hz*2^n 1#'%V0h^:<],y[KV3t/!'&Qg=|`.8^qISQ*r,;P%9n%jMtmk(M`;sli+zx(Ixay,cmU~&#@e>|-J;vWBX~cv9O|uGlrr:xM'v<A<3_W63+DRG$Jx+<<g|Vxbw$,2Ht'~eheb`yt||ac ?%%s'6[DcF$$J#m]bD6pszA!/u8T,fr2|_A6eKu2O7F'z8D#aw(ue%q[.0xf73jkJ|q@bLH27myY7r,%g>7F3O^6-Yuj?sarX,D$I_Wvoo2*:]KBTJ/. @-.0nL#dQgKnc<scH6Q&9j),Mk5&=by:FzCSLyA/44 _6,$RhM*@5W*bdY7q&Kzx?/4EvTg.VSR&KA(Y(dPV`2`P|7[npYsDU)9rM'<>P;+haF'eD8ev&dT^ATL(5-U8R_=_=4B|y6+ Lo<mlV&W34:Ya>-TKTGu<q=fu:*GK[uR-5Lr)aK+5]:QLZ![5j;RhlH7:'ccS]Evq<m6p:4",
    "L#G>>zl@ysFS-HM%05ExBtS/@a[*?0(VZ37X@#qK>y.9hDwk.#^gIblETUoKtM5D9y=L+o4%<5M$S2 I#p6Cj>Uk!^S2!G!DSq3UyB6:f%/2bp1pR1B65CMI-i[6EIVZGqtu)scx%:mI[Hq(%NM[.:x-:*+z5,mJr]b4Ko?WgvDo<IEj,uhe4E'EQrCfStOY96gZv24aLqbm*$]W&kXS+:Q  /W!6NBN-iCFeBR:0r=B1;25,C?e!4r;aOiUKbjV:^i`wR2;T1hO#O^9iZJAtLXRsu+XLwK=|43&/kc=@T!feaX)3rs~w6DpVSB.u/1f>wDev.!:3t8V*BMC,t-&([oOVrWm=YJf;XI6@p*Wg?d,kW*]xu[!X:W&OyqSnLa:ccu'V>wL6*K[`XOV[pJ=)>f:!6T?K7YCM6Suv:TG+@X-MhS(_0e5@yYM]EH4m<^a,XXw($48^B6FOSO~<B+%t|oIq0T2!ZYI",
    "7rjMT.%k=H>ECi>M_OEn0omTXyYuAzUaSLyHe@5+XnM QHOUpuDnB|_XZ8u,<lJm!T<Jb/zs=+!Iu#W8%j6$Y?k^;9YE|_u`q[,UEZt1s5D<wya/V2Qhwkh4hFQ9K!7PX'>(F0F.,&Un <5Z*0K552W7SsQ&RuLq;,9t|BuW&A[UPwXR]4ZxbfBs`Vf,l%1b(bd3'#8~r?6w*I1et81_V8)THpCRMC3[fwI[NdK5<w2r<eg'/:H1 mBI*LG @M112Ui(4Z<L,E(*I$2ecUR(e?4.WW<nGawh_@Q',+1L3<&UHX;)Wgr$PGT?^4P;_$irq^cNIoos5IJj8&>nmXt1R,Q2Z1?Q6A%K<zY`Ju(hsN0 F2Kv;edkG-Raek^A&X3N2LV#KFhK^A$:Dw4HuS[v#<x<|(w6<fg#&0,VzfCqnSkr!5a8-E:|Xns!6GUe2n-GR |@]9[#Q<.Yn)b/5S -oShoGAD=k%(B",
    ">@@z QIT,I?^3F9[A>JDfQgvgvfTn)o|y]t@/T8;U&:VmG%vpyQXa+$|8izbLYVu(dw@##]e@b6 2ov,nxH&`-(q5'=*7@$d8V?yXJjdC6=:p`4s?'#3!_'D:i/!Bggm8|+f7kwD^j09:ah,8)g,0ysht3(xXctO-KI5#wa.B~Ty#Jeh$q;X@6R6|z`sGCl5W<q@93CT(,VABM8wSX%M9Kwwa0rY$JOGz3xfW;qsn8Nt0An RpCeTc:EclIF6QP jk&P#m+>'@@8q.5la9&/8 lbSHfloVkP!@e>_KWdY7!u4)QIdC*I!F)%g%[jm>N^:[ixza]UQ;bs;hDPb#aQ]b^D)#FgGGz:IhoZyp=e7%f0#PR2<frW.(!UYz[AN7:oKl8nKpCQ?K6*e7rtHfb+?sxqZv)ylKr[`<,~P:T~ndQ(J.|3+:RG|)Pqzm2^$XQNlnlflY[fs-a8/%a<k1C>0B&k+e%seuOJ",
    "Q(lkmM)geG3m>cOwFoP,8&?@CzK;]^I0d[&uU_T[;<pR&[g'xi7k3s9+n^,t+m#zx$-7.5EAbMSE8#og|-5rmgOz [^'iBdXRevhxt:c?>@o'nTB6=10%eeD&?Ji0]]|!w:tHNd?FWVL:=j]a4Iw6Cd^KvIChDL]_$CR]o?FiX^w;A*dZ3$MP5_]xo^|#+xcuPFkouxb=oZ73p(0Tvryu/z9<7PL+1IUThwiQnjB(O037(P0AX`i[>CLP>-YkE,GeI>W <;Akd=^y7(fAByV;+5,3DH$;lK(R%I:`|b43sE;&in2E*rEWVg(*c&yRkp7Y jAc(m_BemnDF%o1fZ,(He$%[SBL&1H:8Ck@65A@VPJ+>r!yi<=n^9Hq@cdb4x$irgNjez;GM>^d4:'iqQUpbe$X8zcB5P$lO8VIbWg[-L|?bJqQN^&0v<](R'`nzo~n'KHp0YAT,o-p_T%PW|>p-J/Wotl!@Tq",
    "_iTR1fphF&]nng(maUqM-qHMCtOz^a*67/z^xx!'`~v|G`QFw>6>/QokDe>Og=Zfx%&Gn@*4b3fhI#+WAFdazc:W9v#U29R!_q-&lX9R,cg,c(@Gkm v#^/xO9AgkN5|A~zZN&J7BKB&rU[@VN&qH)Ak1WH+5Jd/ quv512-3Za2Q^?J+5iRgqFv#oI%8Q% )Q5>a:^2q9rgYk3)nk&]`]x(vOg6Cpfi|^+7U!rKAN0]:g%8z6N&p#6GtKs%`M8=Qfqe4W qD9@mg,c7tUxr>y]@W_iv=mWKT64|k7^QabGN/:|lX47.pQZki~yn9)bLsB`E^m]GGhBla$^G3%S0UjA~>QH)8I)-;J'DkM/_uX2Q|spm^PDh5/kf!'|s5*p62jlp%)`'lk5) e[/W5`[k6jqz>_Z$lzLq.fgF(8/5hNKm#BiY]=H7Y(7wkdhsi](dj<G7=N$l6UWSp3NHouhf=yI]Oix.I+]",
    "nP[J551G>i=XBdWJlZ*[O$GQ-h?J9z?sI1mU5BkJ&wf!p!eB+'.Fp9[WMZZ^<q>?fUY!K(a@xcy0Y&6C@~$+t|Bp3l&8Jv6;u3NiFS+E7^DvTY>I@l*r2Fcs|]Sf%k6dfcaUlr;xWskI#y_0]c0GC<#@xOsIG^4v K6DRtw-F~.oT3&@K>Za'G_Dn^O6JkLev?YHpXDop72b|I<3l$-I??cvXY[_Gov&E2Rcgul/E@of^kbkaBHN^=<%9356kD;+JJ:f.uCb++;Upm:5OBA/s#;T%y/q:U8Ek,?[gd#MS>!he, |lsV|N(9Pq>/:i GH;wbp &K!#sVQrEM.xP2;@A+wnK0:.aP4L7l98s3jb>.%pdg_l>&U&0h@UL(;N.1kXsf@$*a=JG/s$];2#A0knd0P<Wf7s_%sKX<ME!iy@v3w Cn@_&;B7j*Eh!2r1;xx4sUqA-5=:564eM`J!b*~;JlJ_wy>IZsc",
    "Y ETSVJpm(8>OQ^/18?%G9E.S'=``Iko65CdgxhRL2j;^~+E?S7se`CWQJ0z<Z]eeLtO]TVC&V&[v]w!,v.Thev>TZW*qD7 nsKsMAc[.YZS/ArY%Rw.eUdD)1z%>6rV'$N:W_@H=73?xVNX?=8%* -(Yg,Y-5q[]|+i%X3u:z:rVQe#-c^uwp,fbszNi5`DBe/B^e(5K`dc[Qx1*K@0))*lgJ/W6$8%g&vSm%v o@DOPBEX$zO@;3hHwvF>Fw7&^jI+acU_O*`9zVTjvv,(:-ax]b+/(% R+L/e8:=as$b8sObn%qjdC+opZx;'v|rsxlg_]4%d|z8oWs7*F<]xZQ)wLT_sNr+s6`qiY7Y9bU*[!Bxl Z6yJbwIm/P,|<E+=t,)$M+4`zE.l~Q%>xPwDF-u=W3ILS#$Pd0r?TP>$(Z2>ARwEqkPKs3?wkrBdVz]ux!Nq9[uCj^I#h<7,[fe+dT*d-P&c=D/",
    "hNC|=36&#Gy?oR,k;fcpx/,*P$(o:V?;vxr9tH85g_so=8WpIq&,T.YeDI-gWYRYL%cMy@YVz6fu4M^azjOi?EGbGD#> Fr@FWv>vlL1W& HMjqGbr!12BI;0?HI?s% S%` x+-=P4si?!e>QWiC3<GC,@u@*kkrPR-oome^Nw29vl3=1N7By:'.v+q12BQkK/&SVE7-u_49utj94ty)%sh4*k|J:>3m=SFt3DG=,~,K7_Q(.hGLC&aC|cr<CH&M59+]QqLT2(KMYA!yyjjiLQpNX>odZ|%ea0[/W$82oM$IGPA8TYA+<@U&,_zxYQq;p^Z,f,zGIxR!irU9[G:G.Vht<Knb;WRLmI BVw(~E(M[Y-@A=uulirp|_yoPxIa(CM1<^;0awJ]oLOp$gj]~lK!O#K?rsnnF#t'eIX?NSAHB4Or<]PD9b_,4Uy:2ob0am!`6pAU!p8keJuA?@D0rI>Pg`9 SAC[b",
    "bOyFS7!0Zh_~Y4#u@WYO/w+kwn@uVW0K_(*$^|1D,#@M14ZB4QGdx5al5N('A~a9^;=)fx&V_&=A8~TdYg2=qXEow|aCQJ`*k,8iaJ/5y!KTYM$I+I;C!KAcUsC;'f^.[e#k=s%hzdPV1Xgu/cqWC(R</qk0chDh?U5,)4;szbsdk9r 0.^)sh&mo)LA4)H(cCwV%Hod<=FkJyJ2[0To;q=~3u?-^?DOK%IeR:ULuVr4L`YhN-c-NG $#IJa oxD&zSV$O|/d*pn3%.p9.e1xeUI4uLF7Oobxr'V*w3AIbo$hsRYPk+=t5M7-5YCU'Y~fE`v*HE0]TZ.:/w?T(!2>I1c1t7wpa$_+|*Lyy)~DuNx[U*j.g%'J;Hki/GMq@qCi~0?IK>|x1h);T`<H6y$WcdK#a?K=i8Fv-jsD6ng)h/.HFma^d)I>N[22D1`!.eSt9,x.0>[lK1yH2JDUv]Ctd3'hig]i_G5",
    "!p,GE7AN[E(:0616tG0>h,. GD%)J')9s 5=;b0h9ltMMjY4JYxZ*24u<5TIRJ1&V'D<lE*])d|I2gPDLX;kw,D.5j)~-&peNS8k|RPx*ev#EU$-u|c97KKSTR=MIocYqd:S+(Psh3O['TuT[TY/kc6LITV4&G]K%LkP=%,kllE]|^T5A7&C(6WyNpJP|et^(N^j%7J#@?Y<y1K:[;z[M?rH-i/GXL=f;Klp3rX ,sI'^BsGavv>m6`mC/UPlll:1cgLUUqkq=8ax2@;DE_|L_y`3T;g#X31+2u)/TzfTxWuxoVjqzj9pDK#V++5F![<'l]Q]tP102 ]Bxfqlm%mLA^(U`W:<;45ltDhOmY :nvgr.0^(PNG;fD%'75G$fehEn,DSug8MDSbnxj&DEV3[TNtY&bMRgqVG0a?a0,v3;Buzx[NQ?fmOdm@iY9_I]!*<d fuL%e!AAytY@L[1>M q#Zv!BgjE+f",
    "Nrj*(8Zx=/*3W7o*k|f.thx`sZrqbHYe'n?f(?MmPAvK<CQ!3=O!E$nywOhoG%8E=h/M(R6c*O3KO3rn@ijylIO)f3hU85mNT85[pzd3-4.T1~0>D|?f)FS^R-+F,o[syo;)u.2lvJp(@YD30c$GfOD]4ZoK)Y@_$Mm+:ve.9ynWRpTTJe H]lU`kqH8q:BM',e7xoqoa,;CIB!|xD#~t1p_A|9lyc0b0$[>`%c2 ISH]LRE;.;q5s4R,?Ic91u*J[2jp=QNbYB/w<t6- XdL7ARORxs,6;6-styk09<#i/WFL>]zi5jJN2w$c=-a|uK/3>06]::grN0^B#5L]x:',7+@iGL4WQNeyQdXK%kxvdtThTrzWY#N.8mQr*BV9`((pBD<'|S?)u'K]k%n;QGOj;#I3o[sM=RT.1a)hNc'BLWDr'F5uX&t,csxFtW0yyJvFXu.u)9lK&:n*SF g+xIBMd5z^88J1D",
    "6Jv%lRht:C=z.x>~h@l=JwSg:yk/I[ GwH[]W$W-:pGQ7,ET13[[JWibX|.:+JZ hu/'a4g;@Wp F-G,7(qapjM1$EsY>Rhm^#-F0e pmI-v<lP@@|/zCD4>)sY#O@dkf=-%ci-<lZL9R&MTxndW2GW;r/r`|;Va&Z;bb/p>6]J!2#SJgZB5mtk 9%sYvOp(xAwA5gA#-$;;2 %+/Q=B*(*L%x)D1QD*BqR?</ sC)|I:Nwye2mz1m8V^o`3]3P0(0_I/x@I; 8G;MqN4o^cr1qLHhbU[Z!/L7ZnOkv<))/2!>p*XCSvAHtD$K2QyR>] ^%_mlG>En:2cXrlk/m=#FU aAeM5$!z%I2YOgR3+qE=/%Kt*N99Ir?37XmWHg=M*4(=@:Fwq/<B<(ubI&pdq!Jy,v['>G.WY7SiQ%HFt^=U8YY^XQ,],`[Ez/cul)aILds1 =G5R$PGspRcC198cgr@UVuj*D3?",
    "lxfrmARbZ@B(/9 p/Tbg*M)R1:<wsEB5J)46H6Xz6[Yh[Nra&v.S%7cus~ECV=O[@Kk]nK$h%`g9EBy>-U8eDbNfjV%H)h7!8M*N1X(&>L0BM|AR&FB3ancmI*u`m PrI_:NFbhKp0A7tir!n|F?JrT>;R`jtGi&) 6BP&YX7j=@p[ ;B7@[KZ':qZ&)!/-[O+!AZ$DUb0q=qcjq[f6YmR4Igo]:68kQ9dho@!nPbV7o/+Q727#=VsL2d0>+I=IhotI%Q@L^8Ut@=ZHNyR&10uLU`ahqMsUu?XJzfzIq%5baE<*myDMmB&P lC;[/ju[T6DV(+gAu%0t)LRo[-2-5V!X[IU'e-mU]o!XPL>Rh2XDyWiu'drQfX[[T2'WnNo|Q-pnm5wK]p<zm>6pObbAS'D%MeX(^Sc@znQhvT!]ii^o2CQ)=fO;qK@`Fz QH#r'r*UH2|[wz+EcGy_:!?^[yAa^%xW%A=iu",
    "f?v`gngp]*Ba[:_Zl7r ;+9GR88zREmoyQj;N2JEBgIq$0:xOGDQd41ZB73&$o3@0U4i:.=DGd<ui>*tlt2Jz0TAJ;L(1|[rmXl?f>GX=(5/H>hWLyXxUePvN&q9P^V[uA.5IlWcBd+uC!M5E?9#Q(b/|u6`ls`GsbMo_#PBZc_q13G~SM|FKA_-x!eO9?F M/?>qJ73n*j6P*/!Mu()m<Qz!bOVVOkMY+owu](;VrAjVIPT4UI*-JiXP)keXx%l3fI#RdK7HpK1Fe2'A2T/Q+n&)p$:^1dzQC4u:->+dH?k*nJKQYj0AH@<d _7I'rO_2(yw<.#e=qHD/DJL<#<:jFcpA1=SRP-U5m7;Z]1+DWn^>kCj_yIs1^zQ3:3b2vSBD:;|!0-+s3;2]<S;'jCIEfY6hJq27k>wUG?(Mo xm6L8kZPF1|V:?JBd@5&=V3tfJxRnvK&sl%n_Q0tAtm+Qe@9JMfN&Ow)",
    "3l[!B^Ezf,;ecasPMLiz(b+<_Cf!+(mj53YhDP9Y;74V5$ryU),%<Lj966Wih--:>38A>+Rjmmimt$/J%DpP<xEY|.NQgtlky!2vhsc5#rJ|#wHMQa=9(h&q'CD~7_G;jRE4q[lz!Md@Td>`qW<p zW&9_EgfJV)DASSa7|vIPzv 1>n4vs5qa<mNwu&|%U[dcnR>Q1u?a9)yNSrZxJT4/.IJ8.S(a0'd'ul&qXSK3*s*.`O]NCZsc0eJL&|3:94'$1EV<3U<Y/_d=xLc?Cj)46`v|&*0E5/&u&x-/>0___EJ:O.tqACSXoN:hFI^)??=84wwhKjQ:;o.KE)I2n=LTrYe=]#-]Ze#6=hG>z)ZjqreNo9!Ej_>LQVyDXun<L75PD$,>HCnwk!MNn oJg%XOEq.2i4Yh,?Do!$$A3mXCKoWDPaNhTvnQ[OeD0/ReF$g0<dZ*gH|v&YRd,f-p?z_K?o%NhsI<; ",
    "7o2;qG:8#%`I3. f<aleR1q!y&P:gjZ Ud-pDW1bUx!ttwmw]E`/`u:gGfqkA+ZvD>Z%P`iQRv0*Tr#fk6 EltLit<LIcMod5)Q=@T&+X~:zGT`Nk/Y3Eef354N3#vFa|qpwVv|-!^19qZw8iG|>_B^,y8-83?@!d3`@$FH!N~YvukWOE#wy$/qAudU#ms7u-[AH;N vT|T3fLQ%o5ZQ*'8]UZ`|>x<FZ6OX'3&,%$B7(z[./M6jB0_I|eQP5$)tIVlI)%CB!v]DW(``sco;5!:>uG91Ir g;(*Plu`07Tb:c%JZh;a&/]XD09Y@kCg.<.I<.5O1gP0#W]/,NhGYJk=/3d^6q&Z;_l.mG^sQ Rt~]$2WB6,IZ^d`'R0-)cOX^-`bEfH_lU91PUMi5$kS&wT:^JA@qkp t6B=z2[?ud3;budi;.%R%<:@pWN!*DuJ;t)nV4Am#F|FAAMBXu:_k94M4D!hcL8/",
    "4gV|rh*!JUFu#?O_Q i!m`_P?HyeOlAlSfX*H<g5vOLDlW9muo@2|ICyi1eB=NrO1=Js2853oq9d!EL8<3G~|b6^P?7LMK eIRRg0FuD4`f(0K_HF4v?p5-4|QK+9nk[OUFO$]>haE,1Vz2o@K(sKlY=Z/So)=##=0%1]Ka00<(XcAu2UP=FD|k[nr]|llX:t%^Sh8;b;'+*go%53J&<R+U4;8EC$z%,|V5|/HUo5#:SPbG7F7Mz54RA(KG#r OT)P.MzLTOZ4!30o+uycc$#=xEyIGzW#rv!(S)iEM?eQh4i#Cik)0E=-wf-R6X5>(udK;(1C YY)wd;`7fksri^w'>e0FM>W:t$T*#iMla!JNu%+ap7PQU(upP HGgSG<PT0b$)p+TXK-w#gC)uD:97uOOr4,j=mRSES3Z|Dy8Ax(p>3O1Q*Ws;6u<4a;'x.<TGywsFRQboO+DCH#C*waI.oJ2_KI?0SoB",
    "[r,yeakI=dE52!i~zX;=<SIH+sO3Lkx)6S!3u0$Fk:G<]m&I-2No|wV@?97Mu.JOs);AZOwXN-qjW3Jy5^4UE.jBo:WSpuM*f?VvJVWb0TK.47mW-)C%z5in$)BHph6;S[Pm;Z*!-.sk7X;3#];9yHyBASLFs[ kYfzx+^'RRbQ18s7%YKu48EoC6#ck]a7$:Pk@e3[F$iVflnY=NE 9<,-;B%xB*gj;qK_]iFC'eg#YO5,p]RvTwD2|7L8~S.e-uw.0W/k2B+mD khGE!64 Tx%/PVis~Kq&iNpk(SLsB*A,_CqNzR?ZlAw*N33I0:L1FNm7CB9:foFRF:d|O#f.Oz,lgi&I?@_=^41bR@#e*7E!|$)';89T.p|T|B>YokO#%GEXN.~r<)pOj>Rn.*.$5%RV8ZJ@Z$Uaun`;:fFUQlT>XB,Lr^OAVzBJ!9jDNP(E7| !YAQD7lk8w**3V1pcHXwoOqhdr?~",
    "[;X4IR(us'WyjRgPN|9+g)pGAPAavg*<X5bYiU(:ecJ~P@HAd9 Kxb!$ed,$-ImDFD%14~gm!.ucOOd6rUl>]tc+bXrj)3 JJ4.>X6R,i>Z+FwSei0pw>X:lf`9t_qw`K1SU3zOEFFT$!-TN9F&<U'xG]1p5t6mw<cYd5ee]LGqtc$JIeMV ,F(W<,OY1HG0OGaAEToWwm,I|d;yk$$QxkY|o!lrfr#h@j`UvmK.Ly|cf,SDUa1,BgDSV< d$+'z=6?hf76m<>j|k$CS'>qEn5xFl(Ky$f,:u%6BmT%$'mSVn$DhnR351pgvHv)7%LIlt^!uRC([`zttP>iTi5S!CHJ;9kt@)B.<XH (jm_JYO|>dvG Ws:|8+hcy',:`;:g6-|@t0[ckaWoRoplODpKeslOqcy@XkBBsxnf8`J?aK;r|p7R|026-aH)VI&UH`zekM/u;k)X1NfCq=mJWiGSTq4*8'q$&?Tt",
    "919Y%jax]l+~5a3zQ,n(J(1ww?E3C2`p+wB)go;#g@k;C%% _+DmPsY(UAH<7] V$M0:PsDVLIfMV/VoN^%sGsJ<fdfo7M!,N#,VU~-)je&%VUb'`WO:O5reLo:Rp^hgFM15qN?mlbz2ZzJ&;p|gmILRxo$[/AY.x>T=ii9h.KlUtDD9''T`=Hm^Dg_W%0HW5-_rt] e$[A1NdS&@X6u KR6.5VTzTCjy_:j?WkDlg1TC0Zl$(Rzv-)[p;6Fc=)c&B:~NYN43JS'rI|j3Ou!Ht,vG>q=Qm!1^FBX4<ik>Bd>a~Cuq=p=S#?^mfMo6atj3@U-0Nbnq-^aZk$~d<CRGY'Y?[-qTAWw(^r?rgXIDX?puVM|u$Y&LK.y^NM*RbC*.UW7P*#E<!8M_ ]w75XbR/2V4tZRQTNDl]Ua)IFJ*i9e5'7Cw$$S1@#58A7j!-_'>qf3Yjy58!?!(AuO0y=HP#x4mKU&IHp.",
    "?aR(A[]<)~WGU a/%M@FbbuZH%n<+$=Xvj8`#~5N4KtgmS<&9g)M6 !z`wR~#C`F=ACZH6q3.%NlL4xD@We-5T#qk.Fu&Q<5z1kcJ'8J!*f>J+mZDKZAxLD4*!>7?vi<zq1q!NYySRyu&frer^$BB2A0$'M8;Qg=f-%%VGLVAP!~Y2o8Vd0DQkD.L$:44p7u7.yYHL>a7Q8I%ooCOiz95VmM61 ['asm|E!G$t&KsU,qz(Xfj=.|s9fh5kidHoglJ)HIht!ET%OKA~220Cs=yR_e`$=:='3A8yH>:8`l:#%5aeIM%u_#W*pc7uWs/hi3C`-6%*Ri,Gc_f3e,H48|YG@kz(,Hu#<-5!7e_p^-7hjDvi]FQdM3)H'R`t$or0WcjY#T(<7CDx[e6nKwSr48f@wTq;p!7I?H%/Qo`nt:v$uBc#55,4NHsA$sVmr<Yh':,'uQUS^ol;X&VE0nzW6WLCTh4[S<2WCm",
    "=Y^t=~q`V1(2ss]cQq+`LaAX:Xzft@<?@&2#9VmYBk]j1b*h)ha!-.QHnUi!B`PLM!ms8ZI.#ts?eSP2H$//;Fd7QrGQg+rUAc@sA=i'),Pqzc-[tTNH?U;M@f`M5 0/^LM,2%*S?h09t:@Z1)t;lv[+tm?Xmo-g4tJ2)r)0t4@w7y$^RA74H#>8S7H^$Q.UO2iMSJiV_G6~(#sFk#A~H4mK6HpSs#O7!(FeP5$1<tOe/Olk0xy%/f56$Gj=;+!%VtT'NtBbE`5t:[j*_M$EKF*RC'_.Bp7)sl/&+2U0SG]wSY;<qFfJ@WVa^zTA47*WSZHznL*.|mR;Khg 1>n3YHwi,R:];6A=P-+|d*w'*B_)sg7v:pbwlBJ|rU16Mado=bvp2EWsk34T3t<`Y4D]At=q4c_<8.PKrInkYM1Zd@,&jTSKyZGn;;2H.+8?2tyR<?ry 8u6Q<6Ek9WP22#UKbcd0pcs[$f#",
    "=Ba4ia-.pcv4%:VQbjTG (98ELUD0J2jf8^+ Nu-LiZs7ChI/;qcDsq?2yk_l:KcU6vDI<Cg5l]B_8d]g/|M+6P]b8'kOW<SCOE4>t3)#Yv;v0N&W/F,qo6NnFn:e(NPY_vC=6S?7Sl#ihLEnnw?@?h~J+pn=<oW`LP&cl +)H_RAz]`fs-|w#JjH?KZ4L4`F]fzp)v'ib-^RUvT&MLEBROA[Zp,'ZJ4b.|be(kdMJKqOg92zMS[_U=jY6( zr2@a.|JUY6Z+w%.kc8<$%P8,WY^so_~dK[:>p OC<gp<))#/6GD1L>db_ qH49]<%r#%I/3gT(lm*.qI&lAeJE0o]aZCxm]X^4OfUF=am*$U*I-JCJ_h]!>tFKD*_TLueg>N/j~eW,Y;?NN.8$u][PMh>^ha_!<mx_M]bv/uE%#YqH5>g&+`97QdRdFi|25]kb9DjH*&X^9^0:Ip*D;5g#<vXR.G*WUTsg1",
    "4QS+Y5=i4kxQj;uup~->W!L)$0JeGq]A5jTexc!/MNI&q3O9HKu&'^<~$_32YDWSY](Ux%^U.ojqa[:]JRn]|~*6YAM a;s0|V+V.pH.&C2s<kGkJu*%iGY?eDBZZs)+/e?-dOZem CC1bpv2eZ5Rn%_|d5qF,No1.kPY|Cb2A+=j*RF/KeSl7B;m+hcUTm@& 3Ep)0ks|tWlm2%8gC*9.p|iAl@^fw5X/7gbT/p_w wX$s&SZ[=q4J=L7tzM7IL]y 4xEOwuimW-4N3eo+MF:8Qn+hb'S`M^^-gQ?y(?eATz&7gQ.,+A;W&>DQ=BU,-$W`[>II;LkX|<mm-6~jN@Zm5He%H/KVVx,2MUi1(u>wwe/+V,swaWeTFSUvW?+ACB/?%=mCE&rk ^zc0,d4T'Ocu!y^*79yFNVM|1F%CK<XRuC47#+:=K8@bWVLS4p0ih7&B4Gzn(@)XdPo:F];lS,PCM~$^E-@[",
    "rz`c=hqszMoy3J PR7sNOK8R0~_oNpkhG=&R=$-0XC8kz&L9;TDeua/Oh#46C%bf[$qQourv>oSz)T/-]0`#8;,eC.Zk7<#r:n6&&0QU8)6E#n[wfy$m8K:]aeN DD'w+46Y'*pxB$oU_yl a):5gb(v23>q#.=Xk|1P6`m,FJ.P8wx)n8G6dK,$!<CeChUvZN&4?^q=b+K=rH`1eQX)baEdRPoi|Gy)|6G`kRi.JZ>33imkltLAHy2M`1O)?&?*/eX>rIGS(p/@esnvB_;)J[C^NeIin30$u1F8c,=ux(/a^mr5,lRWK/l/^9u]R+Cxd5!Mgr$`ubYlg)XLy(XFG7:_0'82tn<:WG?PtC;;u7a&l;za5, ^L^Z,cCZR8dk--XG4RAQkWV_xWaV7bH)LR0rRs%+GjHd9K_KdcCv9hoUy* +m@@usCdcr4UkE/|`HgKPfFc3I]sTA[#6qh)um7=0V7UUsiMi)",
    "+TVJUa@u)i;<@[|en(nVl*];7.d#De(`qR4/DebGQR$zJ#xx!j6~aE7,Y|OjF`u@@!RT)$I1d`$svSSIRhnbzdmkvmU8OV<IyUbsyJAA*B%*8|<hp#j+8ev2bj2 KJjV)Fi/a>)$o:U|qk`1biRVtX)S=w'e2n[xc^v4rM QK@HFE>Jr[R>Jh MM1(SJToE_K.K,ZgqedvKOWhgIz!IA%nN~[!O1BAv^%a#1QfRNr%;ySe9Thjt?2.WA+L`nN 3G^Q3 lUC@mY2Z,dW/zp-PvMBS+gU#0q685)S0tf #^_.9[!SZC0H'Pp-so[XYG;0do*PDQK'.+n(1x~^;l4yQAR5Yo|eA5%#.zq3O2K've?&mZw|<2|=,h7|z8NXW%U8hG7UV!HFsxD<1[fqquEu+fuh-$rV68p|JS=sF7/c+F:R0.|=G,<#OL2fqK57-4Ch5oR2Ry'8yhFeso=T!0+]:iesna'=GivM^",
    "Ri,bK?(qF|3kO9'I4)xOvRIZ;h5t(r&%^@9E>OfDrh%3zP*-n4qBl`_V2Bz('>te=zt-[LX3H4Q&OiT!*QZ  gg<=xpFO45oqFj1Lfz+6lE~8nOu$DayPs645eq:f@=]Lg%)Bc]k7.;xeyX CJ&ZJ&)3[$528i7>l<2P0*[oF5,#+?vDSO%]r%y=>!3hT>y-tu7TTlk6?I<J$Y0()O+33(eYt5@B;^3<CyA@'d'>o5ijI@9;CF iSQVcF&Z LL|=D2*tPiO4QO)$BOC<M;=8qC*cXqGsGNXj/^>B^h^[0s'cJ)qX#rgX['u==&tg],Mxj22m1_UA|nu6+C]c%&UC91lCus,pr4el?dU[yQ'&DC);-~!!v#AM4X@SJ($~NOACI$dT%!)0Y`1h f?2,<($!J&y%9NuHJY[s +*?)&3J(+iGho+'/Pzo!YlDlGhoQi,X`QjYS!L_c7D#$CkCEbhmZ`0P=UdCmlu",
    "LU3#AmuA)8p?aTJB*fRB?U96J~E-Ykg7-`D5]EOTSGdaLFd,LfpZT?Q=-n!dVR=a_18wq!D/tg+?=4(6ozauGH7AO<57IELG#]37=)/1KOl24NH``O(bF$h_*[j-7H]RS>5XyC9QZ96+ZV$BN@KE]D)ZQbsh[tC,K^cKF%ZTQ q%/Z$wOL% 3qIiV~G7KK,3|MKF$$q,r(-XeT/wAG5rwBnp84y*|!phjv[]'r8<<gh?WbflP]1<zM%t`>%%/qC=Ql)L)NPS>Wz=[R8R?M>7UmI;|`+^P|l4h.tkZ 5MNOsa(|zl5a7jU'RS#v3?#;nzy2zxe)-x01MgN8Pc_W^Z_?.:S`q0,w/ ZNa%JJ'HS a@1c7AGEUc7Dbw+vN0.,|UwRFoMU-OI7[uY.+BA)YnuWuZiZ;Q RCNrS&^f<vkBkc5noahOqPF5.)s.tCp@TFVHO/omT+Nux+$EEu5z./LbLSjI:=_g.+z",
    "U4_?|vw_ePL< fQ2^ui7qqei(Tjj9,zw>dTEr`E;NS1nE8l)ZTch |L#o38 v>BQ!moxv4HW<OLR:j]jxm[./Y0Kw9Z~Y-|'rAba_``kndrV-QyNyWzt-[q<8AK7J8>Pv/REL5YfR6IUWwBT)ehBrwO$Rx;a@?6o;u=QT-XkPXvvj*b#P/19_V<AP(?)2D3$x$ =tuKpACPyuF&93$kixxHaFx6W!^zY&ax`^6'7]&>l'gm9NG_1]fxj7vd).:_P/g#]ph;qAGUX6I$d*ct#`FB.h.-AY'v@Blc^paQcc@>R0_Rb/j]J'Wp*KHdnDmz6mGW8M]:]2Nm@'.jD=:R !V<h'+;Vb@Rrmz'hvUkmVye*QM@=&Q6v;EQc)@*64MAQ5-/4[ /bH]$vsGCJm^atI42oBdo4kbnC_XoUbj9dPHvCfOW>vW*?Y!EY0QEL(0Zv1)C$W'!Bjts>>4Ws%|>d8t*rB;E)&$Tp",
    "@k't51B_Z287/Mh?5t(gt9iEmQ`Ul^VQ(Yposoa8F= E%vWvP7(UpaRDe<+LMGy~KTg:Z:.vFi_Z,;44'gk&!4mk|*|1;fP @'p=rr9uJXWm,KR5ye$k;>M u7P!6p9T5fcr|,<`%O2.Wzq|hR$TU[SUp QFvWEiM!`SbZtTFRxqmI064E5pVhf=2D.WDWMkV3/En8$Ah9.s @K-C:>Ql7g!<0uK>S+xv1xfd))N[x=Si 8le^/q*-Y~7Rk3CEASU@*~MP2R2qeG[S-B2])*WT]!A5h --foSNy; m1Hj?8#AXz'tdXR(`X$^2Hoj!|0D=.Y_j[ozrtf8sh?'A8ogPG7 27Xp @E95,%.fa-AbZ5,[#&P)X/R7+!'4(m`sc/(Br:TTmIW?P3`C$9;2>M$tx`rHFA!X@7bhcH=Hm.7c`F)[X~0en1;EY3E0`/)fD#!_)gT19G/0<Nz/<OpAzs2$h[PL?)/M|1",
    "-)ZIn9|2t1U%ld^X?!(lbSXy#p%6f=0lSm'W&YSR[]^M ER9@l!;&@*DkX&T-H<MksWnjT31GSJL$M2Rp9=H>#PdAeVqCy@Y8.+!%Yn(tw|_Kk)6Iy2[Wq8&[=.?pQa0[K%dN=e[LJ;%$|!7M%%rdi9F,PS~I/'wp;`1fx;jp(N%A: _+,oX0Tu6Oa1*Gm%?^~y_qMJ8d84h=|qAu# /R3Kf!ggcym:AiU&EP1]!`%+VyNgS,Of)_K|Nh,6hm  G#5/!tY(` ^NZwxoG[6JS>aL=5eE/-qEti'bd4zKS@_Uauu^xk7ncJp=yITOV!C&Z@HaIvy/ j`v]^w^zR]'hIe54]~?~#4(|uYfA84*B]AS6iuj:>oM)xOOG2V9jqr163Y+i5&#Y2AqD&<.oDq@$/C319(E?q:GP!p/)%-@R1Ds=ShSkLWd*Il,&&G lLX=Y#oTkohr2<YZvG$6jvjx,ZP< Vwq XCv1",
    "lJ+)n]BX|64e;%CQi0.cG8>Z4*:ZuWp~j&tr1ZTY`/&WXy|7=b'iad_Y*#EiX,y2uj)$ph#-H:.Bs.+/l_8:;M3 )JLrb%.hVzmQzT,7sMc_qtSVG@hr!hoQBKF2fPe4_Qh4l1FN8s3Z6]Wuoc;O!:&z,.jff0zWhDO2zNCz;L/lV2OPfKcbo.6YniaWlq.R*BsZ8`?HBCJwd)99a k2a(P!qQ6aH(yfc1=~@|;ir31q)odyIy;i&1/0<*Ygt,#@v2dx*.[g!OqjDMkH,S|Atc3 1p5c0w&UD>|Umb ]j_]G_PZ<%``,+3<gl4pbL[MGTehBfL:q[|zz41|@Pi(/y%&-vfEVI7e+r9iY.U0gsP|ZsqBOq=* :o(4 3)nnVi@T]R. kxn:g*8-uNx>4XG562M_4B8@ZN[&Gxp8nnCC&CGM|>HSmi.:0m)#<#$jF<1gAQz-*/d.7.+3GJ(Ni>>`uXZ8NmH.]8|",
    "-:RBLG@S:g|xU7dm0^6?Bcp-0bk[2#kQI0,b&UHw`U?y6-f_Qtzhn.XSSx@0Y[J6YX^I=GrH<Jez*UbZ3gXH<e3`CDh@<>!ISyciq5F_3=s)bmI@89vN@>2B$qR;G70jgaB)'=i[c>:x0DB'TI0TWjf=5bY_xUameh9JE5mne>53en7w!XYApt=e>' $F5vlVim|_F'9|z(;YJSUtK=d75>6s~q@(Bw@+^0DcHp2&]>R]opQ@En]P+kK=.!>p#zKVf4vEFWfzsV6k[e2AIjM)v 2mC1TPuFzw(fxJN'QdP*+j]b3b&7o6X@g+B.2F+dU'fKC'AgX5?MqJ<q[H!bzd]P2FlZ(;wFwgJi9l4h0C+Pk`~_+E,,eo*kGO#-cGrK,nOOfg3<P)E=ra^R=G|1 <F$khnLH%ol%4w&Qj[r|r|[$yl:~awwfEsW&M[8K2$OWJmFqvv[14HWz[Y3;0loaKsO,[i^YyrL<",
    " Cgqw3^77(&vbtSjK9dy~ DulL*cJJg:P;)v<#xRzyM9XSXzFnY,b4,|To<j4GBBXpx]B[i(7@++@5G1svz|]!E[U.D]ji&Jg~hvX(6X@XM'`/c :0%uli1&pSt9nn@CNRXDMx]_.qJbpj%`.jStTCWS0YM&IpiIM-P~VR@Jls 3QS.9^CE0pRN4W-mQ+;(V%9A'hVh+0z@w8^xsXC1bH1aVP!09;']SKt!/+$Sh9Mpq@a3h`guM/7,1>I4`S7IB'PX3+=@TCBQS[x]L`ch[]xO<N]o wZFcfDe0R(CQyLB'M;$[/vp~M446MZ$e[er|XRu;?TOjo-qO?a<ZS!IeWNaVp.JZh;Jv-.38_@1/vyGA)e@dK+IDO_c $tEDXSW2E>d|%1@k$XeZQf! jA3H8jQ.T.>1o=5W2VpGYXn1Py:wCf'T6@h|EKIT9p6>A=era0ED5Yx<If=]slw7Zd7yAh<#TcO8oCtc",
    "D'Xd3npy1Mm*ylzL:?%13QwNeQ3Xk H8 L=e,Y$Tx;05Bn_Zr)dn%KkiAW,CJYp 68Cj`goUEW5&%x0~-eTOl)tF<q1,BJQA!e-M;ios&VhBIO-(,WtQTpR.`EYcCmcd`Z^<,n29`0`#sAXF[)4%h.X*=(NYX(+XFYmWLc<|[4qqm84s%$1%.`2%o7bsLfN+l0bAe0<ub.CSZO2MP]$k)c4U@UNk9ZC7aqS(4~thVnwPV,Xp+0)/pW&jk@Q:8?)bN% Gw`Bq6;WhI'j=B1hT&9KhGa/BqLSlZj7:VV9hdETbXPJ5[aZd3*-1fZb44Eb1icfBQ(NpOt0@a!wm+&S,r2'KsI9>D(7Jgq:863A8zLl:xGjzPV@`j1<B3M%,`e*s-az^u8RM1O,E6Cz*^l#=[-3y.3Gf#~s=0XV)N,|J+=uCPx`r`!C6y,R%>I@N7Hpvys<Uy)<3+2kG_$oC n<F$O`,-WufvN#0",
    ">yDOB-W^ivpo3=Qir3.2r[^fqG8m)U_vO_'0|-kB+%oWxuEu?SKg: rL+kfnLWnC93KFRo#%'9l/|Zy/ZDn_nT3%<oHK&az@>?ju>!g`)J6J!)=+t&9yADqhZ8)P6&Y_#^I-_SRcxwCk[qG=2WpPaG?s(0V|cmi)2fxG$BW;SxA`],|tVaoKa@oXfe/:__;h-g# dInDoh;jULwM(C05ua`nz#Vm=wM&7O>Z&M=y@ln~]B2<%#-a@e'X()Nz,(wY[x.ZTkP]zMo4RWzZ?DBs(Tqy%4f- VZ!?]n-g;v+['d|D|hgTScEQtRdN*e?MM7|aqqoY]&jj$R7jt6Vr^gG]oa'&h!iyHQW1dQRLHS+fo-bv0.CnmhUAXP7i2)ki%`&nXxe$mo5Nsi]/Y/nsO5`>g.PBP3Zg4@Cg)ND?onk(e3s-a3) fGxubGh@Fh #2-jMZOk(R,D#;xc%M'jLJ7> XYyP&L>PE,A",
    "^XzYX9NP(7!GPm[syHHl@$7]((B~lx$uKc0EYly355R#!k:vza 7#bdMfv&tz7pr8zk9QI>:Z$N,;ZNwSy;J)cYa4+T704uvV]M3VtXE6c7!]i&mF<7TNB*>z9J4/~dz_tG])(9bgJrpOmb.%%Ba?.v6ZG!ZTj38ADp=y2G?uuzKuZ6yY9rM7T%hSG4:ozc `+:QZ [eb<(i4xJE[[N?[EQwtg*q;=Vb%+7i]+/3[)k-dK*vsZgj.44>MsaO+qxzt;vtZ]`` Hs-Q-8PYgI[Un`;pH4U$2b?#eq=l%[-TdNN:)dc)lDEwg>3jnlI?BL,G~`*<`R0lBf3%xmPzK[!:>THb;lk)`TsEvR=)=&gGIjBQ-d([)EaYpg<=fk7HK4=1Q<>M+D,&*w|@G08b:o+@H3F.`8Hhel*qKW1_6^M]#,=3ZM)hA%C!Qzcz[s)^UT+T@#OliKgSRtbz*EygAaXxu-M<vV7'#&4",
    "M4sP_@NnwO;a)|F&]^xUY!-]Hj7 ?9X;b!&hpD|#gLK4v8xZE*2SJOFf3N*p&KL:&*BNh=K6.3M'vPUthKTkw-(DeNspYy(RMOQJ&7Dvuv1?*qhiQAs-x6OQ#9f2RfNboIm_S*8>MO%fL4k$/BJRwMae@mdz&X.;MdO,/mtG2F!qTKHvYswsnlwaf6<v<jX=kY7'aHT3WMz'Ci!C6>G8cGM!i$MH]7 4^yHY'](zC;<1I*cX.8_.&;RoZ>:85Q8QR<Ms#pc:;yGx0?%'*69yne8NGd&FQu!&kSr.(_3mE>cDI-GQxxZ2LB A:-rRU=1$m3<wh>SAop)PI @]T?7x.^9%uNDH^=e`3nD^ZlG7[-Q9mVIFBgQN.zHa3rvV2U zcC&@6Mm`;m5Z-Pgxp!@lK(bgd[7y:o:HoQK-n~]]GKB@E]:mH4M|pY)&GkTMoQ`pR4LAcr?[O9OI=^#hwhn_$aG+k=F;dwui",
    "M8z9)<JO*!JW_$:>4zt15L-k/cjee5'ykF-X_k:3pD9cC`mpSBx<v)8,VM+t;@d;uHg+Wu|dz>j<W' DjJ+pT9XJJ*gcwig_U20l23aEErd:ELjU-as,yLov<Sn`H,T0'C#t=5^3A)J-ss6Z]oMO@h%sp@YeeR:6`@)omneD*f.|H0;f^SWGNW(>|(]s)N9kN=g|e4ApY%98EdnFGag]puWEp)tKrJ#0:8b)nm'qpP5t6ANwFGM|rz*%0FPdL!xJ(*NTF2nIFKwNq0Ig?HFHdBa-hv0-20v8K@9%Lbx#T yaf?>><Pjd8#0d|'J~+tuv2 $[z(nl1 :>Xfno?c!59Jc(^dR~lN)?(r(Po/jQ6&Ps4La_ i1c45MtiyG8a|z7HbxaNs=;dZuxaa rW8e3X<Umi?WvA4mg1E.E'MxC;+`ysNV,Hr[16`^c%_cqEyQmJukS4$J;Iu'C)PVX*j*TM`[;.Rfr+!S6",
    "Z@?6bvvXxY CfH1lA<d)4U-L&.<M)|UtD25L,2yJk4)y(=Go,;!&y'cy$C6epJ6>vM*L^bUFt7$;E#_TDxiP%GBOZn% eD?Cnh:p,/%*[NTI!xtp-`/(B<!%o ?I'/pz$7hl<jllCiYQHi6h51+MoC(;>1:(9JM:5a=;D~+fsDBXv.8#=#_(tgi]i/?JlA A4q!iT>M~75*q-~5On`?G3@.^z`<u;yV#a?lg_YkcL@':F3hfsFq=sW#w_H+h0b`YlhSzc3gg3>WCSHdB(+oz[dX9J$#ABYAGZNhHTaaEw|t4)xI+J@AahC6H cpBw 4XbqWz 2mfL|F~?.'*YK+,/!g59EcwM1EKe*eI'1A]2*<qjY gzTCMpWnTZb8m(UPe$cZKjiN'S7+bX#q0O `2C6xvMpmUZ W*L`oeC8 itN|&L^GD`o?;8CVV-8TLU$LhKCvJx!5&21)<N**ueyIo)97#+e bfb8z",
    "8=/pGWJ=wSS(1v:/iq<n*kZw=KQtBS=!Z%EbrgdvSiuSgbq|c9-80xk21e,|3~%s'#-FeQ7%KIhw.[6XGNm?7ArnJ*gqG3n]dJDMyCh<)b&ld7RFQuy&nq6)k6Zm8/K:Q/D^aJ<^<;qI1p]^V]JanEbJRxz/-Wz6C)qO'zgi>1wlL9RFnD-`G>y'H<u;/>^85Uu9|&>ikMyYy0,1L4AGTUbm7M[4^2_W?HcuQc2~owMV*EXp[!VZB>-8dCP[4?%Z'!I&`VIl9B1+=Yg|4(XGV@Ql9IiUzJ^XmqHe^WNVvUuu_yW&*<8b5*F~n)[7<Ncj: vj?#&O.Ex'*rR,aWL*,OYxR[%MGoVjm4regcvEyEfY'@]yn'WR6%Gsa)NyFb/f*A?+k?1Xv>VzMhGK=JM0F)x~r<9/'_#bttn'RuOkm `UMuyNlS_]&T3u>!#l'GKJWbf.%65k`KCt-I!pjgw&&N]jsPbZTYT&",
    "MYHhajmUuR'L(th8&179yZkxgtQP<zuAh<Zk1x5:*;iYV|=%p+KrWYWdPGZ;Z~8.6J#Ut#a8+b&JxOt#qVHBQ8ou&*jRdV9@:*:(s])y]$X,it3X|.&=G,6S@w^:(QW)xeQs.8VSzG&TmDL:9XhIB1!Wl/<`%K+x54[N)F;6f'/l! 0E7df*`%j;T.W3W,1w'>Df7 q5|nt<dwzXz=Ins1n bWTXL(]llrcTSL<&3cTjc:FbAYAT.~s1CaEwKY*lyX7/Vh5'_=!T$OvDx3q*QKfN3jehb^.e0n^3Q7D'Ct'GV] px7u|+nGPZw/bGf1xEVYrnaeZZLS2(~Jk]zU/gI*woSsYxe-'N7x(]4 BNK'1sqva+*)Mn]A3.+^1N$UhH><t-]N:-1+H'0@+Y)?P4S<W>):A:=ygfR?v)+sz[Ko]W9jnY,P7g,s4l*'brQq?XLQcWB(]~ !2Q%m92tqVFvb:PE BJ@/Z",
    "Q#4>8b#ld@DWQGqcsYPmqb)-hu6:m5i%,1;T2cSlLodD#YqGzO2bi0qZ;^r|OD2PgTW(y]Q_qZnGNG/cCSC<TgB-dB.HrF*aDvHpGx&XjO74rn'-?Xpt)]!zdTJI7i[L!Fz94iA_|L?guu@QT7P8Qf`zGC%]^GJc#6oC2;1~<:ZA2uM7crb7k0'M#B_Ln@^,-f:Pmbx gCt4nNEa[~%DNg|eFp Bo3jLoX3$n9;L>V;Y%_/IrZM@DY>XU%+)WKw@(@8+MX/9^GJU3UB'&~v)%hQ8(_a+P+<^x53E|+-<<yFt|FO`rICIpo&i0Iz^LIPpHwkq/8:WTd,;p8/SfOGEzqS0CtxezC.01gU2HHpZJ_2jkWzg>SvGA>8vp<J<4Yu=I~1mj-6wVs$Zyikn>w:?rgVJkW=@d~o~=>k!Hi.4iYVJKn3;0gx<$Fx/Q)AB,vu;HmOuNw(d9;:hDFBQkqB7zK]d]KX^euGQ",
    "AR_6 2`N DM;p&_K%`|$Pnk&lOH*w*@6<jA-GO+-lHowM&c*e|)mW36KG6&5N3'xS?zWi*NT:*Jb1c+wS 4XsPQ|O2YO-&fEx%AB9]|~,&;OZ77GIu01PJwBJC|h*Gy:u.>~|3YJ`?B%pm=;PCt[3wX&kd5zgF@GD'PD6&USx.E:4Mp]w$]KuVV%PmXmmw5G2+QpTE=)6Q|aFL`0;`pN,'u~hz/uQGbmr/M's)CwzH/Pi1B,RO*MYU%(+zCw&_;/1s=:,8u1!b+ZwaZ=|At]bMhM2wgj-tQJ9%> km2`Zmq0q$UhJyZs]&K]p=8ZEyEF@H5n`7rA-v^e]A)G4M'M$e2w+fzt+PMc.fl4lSaIy_ 0HL&jQHQ]Ps1qFnr#1*[x:1)y&PI/PcfUdgE:>cR(7eHHGScKabueut0t3uWogMGDX`r;46=dqHCO_Gt:7Zg-BNqt^7$419.Z=3-995wTK%7mTy- 'j4*",
    ".pA2U+;_2l@9EoDJJxAq;:Vbsq_L_n7!yrb2DqH'DT:jDqTJ,02sr*dC-41%bo)m_8tTdT8p5`paC-&dn-+i@`PJcK|hZ_YS1uMmC0d*t^S7bJCo01KHQSM6R*8kC:kk@|#n<BQxb^4_vb6y-O=HBov07jFgT']+GZ7ul5fT4(8pS_Wj6@x=V7Wi.#XWj[5`#?eT0^8LOq0XL?#pFY(0<W(OQP0b28>t[bBE-Jj_xb5&3O[SI2r_`pS~YRb-Owl`|t2V@w9z&]|<p/!er[QD*=1nM>()DiL<^0h1+EehtGugdhzc;hcIaA15+^ 6 &Gi2pm.2:ctiZ#3f'Q60t<;g@Yjz4:>A5+Dm8BE#'OG8J;ILE*=mJ`?&Gpw9sj-88U!!qw%*hIJ4AN$on16U)I#6Gw56kttI`+Y:1mWAk9q]iwZHP&5.:Wy-w)^7q6zU|#F>o6@Z]GW'dX!j=nh#/E:MsW|nr=mnEmA",
    "$1X7k _FuKJ1nSu+N!*_Vj;c`r!_>l8idU>os;S|]Qx6lz4kR$CN1LslLQR60%F?7!LHk'KAjsd!w7B,?:pSNb8Oy`d7|[$<.2FdE]*CpPeT'tUzj1j_@2G|&7?*xc8`lnVf/thK1z8:U$5D4ZT`G[if!G'/vnZs2@'zXnisA$A%$%of]tq_JA9h[hIaY((lF!(=%~?GX*@%]:6UG]$(g^C7-Rc9ak<b_hTZr_IfcLppG?,lIZi],27@BYZNXeE+M*;&YB4eTA%WZ-!4gX^yOeG,qYo#G~BQto2uWyLk_30$LK#8'3AqeJGfVTf/n6IIIE,/w0>TI2gzb_/xd]ZD I17`ibStdj +<*AVHtkGE2LIKoWv=dIESH o7+eg|HIV[:xbe^t;'tnW=:-5BbT&(k|,YyrW2*B^aKbRM@Gago=CLF(,twt[ G~p@T7r0bUuy5Fw6Fjbxkha5je8hoK;|Tpf9?f92j@",
    "xNT6/O+FEZ4uywH@x@(~bKt~aU$zPlngzB<>kV4C%^xKeqEsD~lTBEed#O2b<_ae9yR,Qu(,D&b<x>e+Dp8('gO'AN ,K:x=6hWG=4 Yk&oc=x)*I_L~Cs#MMO/2/m(+0:dHQ0uykHg&[AFvlpU$mP;+)!S8pp)XIeR5aZSvZ<a+$g%I*..]Am#9$A(Jq4xdSk[D'~eYmy;Zh/C+Q6E=8Dt` e-5ssd^uc@dWH'Z&5bUDqHjHXpyI)[)Mf(:zPbhdXL4`62:<u@[d#,oDjhc_, j>kU.PBvg&p%kOA!@&PfufhXaW(HNf!qrQ/(O?B'nx;B2:w@*Nw2OU,chGeZB[:zyg`YoIlQL7c8rEJvI@~-QRBiyjX/SVLpcwls1U!Ip6o>RN6lhT$^(W)Q,tgrK81u%R0txge?0W3!?H3Qx^]t0'$ohcdzdu5&^]a:=&81boSNLVvi[[~Td=G6[txnI7k27K^56E$mv",
    "[p?-A;LOfr@<ESz44T(HCs:eJlm^yp F4]D]pGm#6-g[&9S-9IMGmZH1BO%b.k#[<g<#/7(FH^lBUP*7BDy!F^AuR=Ols!LGEcDp,_xr4B=gF(*uV7LV%A2&'s 9w0.'uj9gm6h6u: I>~niU0OJ*`%Gz2MK9b#,A@:~t1QYT9nZ*8kU!B6rh|^Tf1xdG+Gz=X^D_r1uu4Tmy,6);-8Z-M4S0<?GTtDs#0A2eW68WyK $rglVQFZ'-TCaa?iGm=|x;#rU(V48H7`9~uhH+EqER<+ a@c`zzgEmd)B*/zPRiR3ZWf*q%qN92;-$7;Wk` ^[x4T~)^cR!u1<qgMeV/H(:?`8%&E$m-9@1$-S(E<~fiUq7w%<!N!zlE8f[NmE-eRekJ7ygJwG]_mDhs09^2+IW2s[YF&e!FS;>DR=!rhFI')y=f!3:vuNHz& m`F@9=1!E`c~nPIKw1FV2lbXiFaua?G[+ZzBI_",
    "*gc/9WP5+[j:bJ`c=sId*`0wSyVuoj@q@<yV|CWw'WEq&x'4!uhbaT9v>k;'UfRe^;,eFI!Z $d]x4[J[!ohD|jR+:NK4cS61h4W3LdQT1*<3dy0?F!MuFpG!b'<<93y/u|m!nb6(v*&M8zA3v/+ P]yvgbYyA`iGy0$u/<-qob,^tYtE)l5Nfzeepa_<wL4<'jm<xMIh!tuw+qb*tIy'zd!8fB/(c+;M&C#UpcVAz74u(fF/?&l%*>+Ag^3/pEG:I%Zx5b_l;q6BuUD/ln+Y BYTB>!IEsfu2t8lpMqg8m?q-1ISQ;zBTX<]]PtyAOTN>w*m`Xwt<R;F;^|# K*wY$jto_/n*YJ(M^ilEh6</`CDJQ=q8NtKa,)4^riCz%HK&%.t>+p]:3]O3DJg|X^fU`j|TQ6+Xm6i|#SiSmF+<Ox*>xn/xbW-6>lt_Ouq@0 D,?9M?XsmSiaKC3<:-.7DawbN91WM[9X",
    " &R,njG!u&TkC>Jql>IMMnIG[/XiMn3b.Q@utnv~dW@4;OvaV)_dEZ4otdbvFf0,V< w`6@4A+ud!b#7*u0]1PX?3sJX1t^,EV9nI20hU8&!# %h5QZ;eq2K/DtdqQb=#_(OtbtVy';axrvd :3<&H;MOB.8p4VF7`20_<-k0HleE<CCl/+IxR4IWzEEKdc%qf@6t~vj]]5cD?!tp T# VYj/rOcdbU[Hy7U])gpYNZZenP_7E6@_@74U!CEjf7tFEgS6bwYEnh1l`%y63a0zC&t:TvyerdRupRAk5(M6noG^d&Yo]<MW4knSm=@Q~Ih+vp^vzL03gH7)e#S`4g:?%kh.^8Nl_CV%bplkg$^=9ZvNg7Qp'Lqw~-iN%FDk%RI(Hj3Yo|Yx:$ ^#LIZE#dCU'fxrs6mI=A+TDi$hFbo]Yd0R6BEsd@_be(U'ujy]PyM]&vADA/nIFXoXEo42q6<h+qVFeZ.0a!",
    "0%IUQ)u65NoQM4gi^`^tit=+CX.L_rQ:JAA4]/2y.*C=[f23=poh(/D.?s;kPR@1H llS0+[1f@`5ux@xa^TR0CSmKZx'~Gx!-04ry2X#OZrMX^'1jmVoRP~I'>Lp25W7KX0jwW,g7J(wpMcP-9A.9dRDLHO|1C?[4E7EMU:)DmGJrl>Vry1^4pag 64]Vk:.3&U'Kn]s$*=?A|&g^xz-<O_p!%B6VM 6rX|J@tXev|5n=PE3drq8?Z~=$i:pz'waF,hJaVt7e[(Tl'emsuL0#Kn2isk/eL2:2C/KUl<S>MF=)In,__n,'w%EgG]VG`G.*lw_SXdOSoNU!]&I[`r0<,>981YJGw'F;JA0<EYt-/ce-k[KWT.EeR*ksE1J!^GtoY;%Ow[KHe.5E;/?w6-!~)5^;QHX0KM]%CV?]M#39]TT7;wwrpu?'JpwS_?1@oO '=fPGs1,-3mqs/pDR.*e]s:%cRW(ASd",
    "b;'0x@U3t`v@qmZ(s4!lwt^*8;@PvCrKN6*wTpZ.TTDG#hn6le5$,ql]$d^TbuwS<4&kU4,'X=xdds=ws2nDg1al&FMZ]@A/W%;d| C;;JZQ$&NOv~|pFh$~Vo|9[YEMd!:d2kLVy76rfm%?J P:*SPvuJ[24Cm( 2z4M>B[2!sS'0'W[_h]2B_HbZ3w*5wZP,!^S8H!<TT0v6 .]eOhrZ]4;1,J.xM^TTJ=s3*FxC$-01tsR/4dp-'FZWkdmF;i?B!~,9yovN3[N`j92W$EdEZWh+1a>|)=uj,<F%Aej/W,N+gUXGcF8aW+_G-,G (dH4V=[ #bz8GH5W(AeieTV.9Bv<T&bv$a&K*GeQ:O.mu*X,(Q5$QcFmF]yB m$(wLt<_&?BLxG/+Af=UkN8;zN5pYZX!i#pCJqGa4vl1`g6 T)u4)*::sRDtg+8a4XMm#Nc(nudFIN:vB8;3&x7yYuWXoXkD$<&0*",
    "Jz%dXD:q44Yj(%ZF.>y~- fp@ymIUr(5t;[Eo$`D56yG)Sb!S(S&[lc|vs6'Xr:X618*q!%=d8;T8_9PumOFoiwk%,4@A<NL!_X&&AAlP6qIs(U~)]^i=[x!pCK%AvwpFZ!YO2BhC?06@ka2@Q[*kkD3clqCOU6mx]S;$AcDeHjjsGWY;]>H4U<GqTq4JMGgmtU)^+,A7_(!%EFi-+svvEfHY,6Ekq,XU&tX.%oHu+YoY%q0Z9Ox=JjbM:Kqd$^i$X_c6Hcie:3D>,ujN0g.VHyg,3S.L. Dim48m;61w7oqOQ%*$^jH`dtNvYv&o_kf9;df+utFEq[K!?a`un*hsUXU:UhL3]%y9~>Wr.JJkD7+z@Z1Ca,;9=8IMl0Ud~g:F1`DXK49zXqXe1O|lZj?k!;MI8bp@At+Q,;JkRpPbH&y=*Yz/s^giwOA .ay#gb%w6QDnIi41IFc|[`K0q:(k."]

end Sketchflow.Text.CharName
